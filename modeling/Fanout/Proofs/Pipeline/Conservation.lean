import Mathlib.Data.List.Nodup
import Mathlib.Data.List.Pairwise
import Fanout.Proofs.Pipeline.Places

/-!
No task is lost or doubled. A step moves tasks from place to place and counts them where it does, so
the weight of all places together never changes and the counters agree with the places. Hence every
task is in exactly one place, in every reachable state.
-/

namespace Fanout

namespace Pipeline

variable {s t : Pipeline} {f : Nat → Nat}

theorem weigh_lostWithReceiver (c : Channel (Packet Job)) :
    weigh f (c.dropReceiver.buffer.map (·.task)) + weigh f (c.lostWithReceiver.map (·.task)) =
      weigh f (c.buffer.map (·.task)) := by
  unfold Channel.lostWithReceiver Channel.dropReceiver
  split <;> simp

/-! ### One step of each actor -/

theorem DispatcherStep.flow (h : DispatcherStep s t) :
    weigh f t.undispatched + weigh f t.handedOff + weigh f t.discarded =
      weigh f s.undispatched + weigh f s.handedOff + weigh f s.discarded := by
  cases h with
  | committed p hpoint =>
      by_cases hreceivers : s.handoff.receivers = 0 <;>
        simp [undispatched, handedOff, Channel.push_buffer, hpoint, hreceivers] <;> omega
  | _ => simp [undispatched, handedOff, endDispatcher, *] <;> omega

theorem DispatcherStep.sent (h : DispatcherStep s t) :
    t.counters.sent + weigh (fun _ => 1) t.undispatched =
      s.counters.sent + weigh (fun _ => 1) s.undispatched := by
  cases h <;> simp [undispatched, endDispatcher, Counters.exhaust, Counters.countDispatch, *] <;>
    omega

theorem WorkerStep.flow {k : Nat} {w : Worker} (hs : Linked s) (hworker : s.workers[k]? = some w)
    (h : WorkerStep s k w t) :
    weigh f t.handedOff + weigh f t.held + weigh f t.outgoing + weigh f t.abandonedTasks +
      weigh f t.discarded =
    weigh f s.handedOff + weigh f s.held + weigh f s.outgoing + weigh f s.abandonedTasks +
      weigh f s.discarded := by
  have hlost := weigh_lostWithReceiver (f := f) s.handoff
  have hmoves := weigh_held_set f (t := t) hworker
  cases h with
  | took p rest hpoint hsignal hbuffer =>
      have hmove := hmoves _ rfl
      simp [handedOff, outgoing, beginWork, abandonedTasks, hpoint, hbuffer] at hmove ⊢
      omega
  | heardReturn ticket task startedAt p hpoint =>
      have hmove := hmoves _ rfl
      have htask := (hs.waits w (List.mem_of_getElem? hworker) _ _ _ _ hpoint).returned p rfl
      simp [handedOff, outgoing, abandonedTasks, hpoint, htask] at hmove ⊢
      omega
  | heardPanic _ _ _ hpoint | expired _ _ _ hpoint =>
      have hmove := hmoves _ rfl
      simp [handedOff, outgoing, abandonedTasks, hpoint] at hmove ⊢
      omega
  | countedTimeout task hpoint | countedPanic task hpoint =>
      have hmove := hmoves _ rfl
      simp [handedOff, outgoing, abandonedTasks, Event.abandonedTask?, hpoint] at hmove ⊢
      omega
  | forwarded p hpoint hsignal hreceivers =>
      have hmove := hmoves _ rfl
      simp [handedOff, outgoing, abandonedTasks, Channel.push_buffer, hreceivers, hpoint] at hmove ⊢
      omega
  | dismissed hpoint | drained hpoint | left _ _ _ _ hpoint | leftCrashing _ _ _ _ _ hpoint
  | dropped _ hpoint | droppedCrashing _ _ hpoint | unheard _ hpoint | unheardCrashing _ _ hpoint =>
      have hmove := hmoves _ rfl
      simp [handedOff, outgoing, abandonedTasks, endWorker, crashWorker, List.filterMap_cons,
        Event.abandonedTask?, -Channel.dropReceiver, hpoint] at hmove ⊢
      omega

theorem CollectorStep.flow (h : CollectorStep s t) :
    weigh f t.outgoing + weigh f t.collected + weigh f t.discarded =
      weigh f s.outgoing + weigh f s.collected + weigh f s.discarded := by
  cases h with
  | took p rest nextTick hpoint hsignal hbuffer => simp [outgoing, collected, hpoint, hbuffer]
  | accepted p nextTick hpoint =>
      simp [outgoing, collected, accept, hpoint]
      omega
  | reached seen nextTick hpoint | continued seen nextTick hpoint =>
      obtain ⟨log, heq, -⟩ := stopWhenEnough_eq seen s
      simp [outgoing, collected, heq, hpoint]
  | reported exit hpoint =>
      have hlost := weigh_lostWithReceiver (f := f) s.outbound
      simp [outgoing, collected, endCollector, -Channel.dropReceiver, hpoint]
      omega
  | _ => simp [outgoing, collected, *]

/-- A worker changes the counters exactly when it gives a task up. -/
theorem WorkerStep.counters {k : Nat} {w : Worker} (h : WorkerStep s k w t) :
    (t.counters = s.counters ∧ t.abandonedTasks = s.abandonedTasks) ∨
    (∃ task, (w.point = .timedOut task ∨ w.point = .panicked task) ∧
      t.counters = s.counters.recordAbandoned ∧ t.abandonedTasks = s.abandonedTasks ++ [task]) := by
  cases h with
  | countedTimeout task hpoint =>
      exact .inr ⟨task, .inl hpoint, rfl, by simp [abandonedTasks, Event.abandonedTask?]⟩
  | countedPanic task hpoint =>
      exact .inr ⟨task, .inr hpoint, rfl, by simp [abandonedTasks, Event.abandonedTask?]⟩
  | _ =>
      left
      constructor <;> simp [abandonedTasks, endWorker, crashWorker, beginWork, Event.abandonedTask?]

theorem CollectorStep.received (h : CollectorStep s t) :
    t.counters.received + s.collected.length = s.counters.received + t.collected.length := by
  cases h with
  | accepted p nextTick =>
      simp [collected, accept, Counters.recordReceived]
      omega
  | reached seen nextTick | continued seen nextTick =>
      obtain ⟨log, heq, -⟩ := stopWhenEnough_eq seen s
      simp only [heq, collected, setCollector]
      split <;> rfl
  | _ => simp [collected, endCollector, Counters.stopLoading]

/-! ### The books of a run -/

/-- The places together hold the tasks below `total`, once each, and the counters count them. -/
structure Ledger (total : Nat) (s : Pipeline) : Prop where
  tally : ∀ f, s.tally f = weigh f (List.range total)
  received : s.counters.received = s.collected.length
  abandoned : s.counters.abandoned = s.abandonedTasks.length
  sent : s.counters.sent + s.abandonedTasks.length + s.undispatched.length = total

variable {total : Nat}

theorem Ledger.received_eq (hs : Ledger total s) :
    s.counters.received = s.collector.results.length := by
  rw [hs.received, collected, List.length_map]

/-- What was counted and not given up has arrived, is on its way or was dropped. -/
theorem Ledger.sent_eq (hs : Ledger total s) :
    s.counters.sent = s.collected.length + s.handedOff.length + s.held.length +
      s.outgoing.length + s.discarded.length := by
  have htally := hs.tally fun _ => 1
  simp only [Pipeline.tally, weigh_one, List.length_range] at htally
  have hsent := hs.sent
  omega

/-- A task that a worker has on its hands is counted and has not arrived. -/
theorem Ledger.received_lt_sent_of_held (hs : Ledger total s) {k : Nat} {w : Worker}
    (hworker : s.workers[k]? = some w) (hheld : w.point.held ≠ []) :
    s.counters.received < s.counters.sent := by
  have hle := weigh_held_le (fun _ => 1) hworker
  have hpos := List.length_pos_iff.mpr hheld
  rw [weigh_one, weigh_one] at hle
  have hsent := hs.sent_eq
  rw [hs.received]
  omega

/-- A worker that is about to give a task up finds it counted. -/
theorem Ledger.received_lt_sent (hs : Ledger total s) {k task : Nat} {w : Worker}
    (hworker : s.workers[k]? = some w) (hpoint : w.point = .timedOut task ∨ w.point = .panicked task) :
    s.counters.received < s.counters.sent := by
  refine hs.received_lt_sent_of_held hworker ?_
  rcases hpoint with h | h <;> rw [h] <;> exact List.cons_ne_nil _ _

theorem Ledger.dispatcherStep (hs : Ledger total s) (h : DispatcherStep s t) : Ledger total t := by
  have hframe := h.frame
  have hcollected := collected_congr hframe.collector
  have hsent := h.sent
  have hsum := hs.sent
  rw [weigh_one, weigh_one] at hsent
  refine ⟨?_, ?_, ?_, ?_⟩
  · intro f
    have hflow := h.flow (f := f)
    have hheld := held_congr hframe.workers
    have houtgoing := outgoing_congr hframe.collector hframe.outbound
    rw [← hs.tally f, Pipeline.tally, hheld, houtgoing, hcollected, hframe.abandonedTasks,
      Pipeline.tally]
    omega
  · rw [hframe.received, hs.received, hcollected]
  · rw [hframe.abandoned, hs.abandoned, hframe.abandonedTasks]
  · rw [hframe.abandonedTasks]
    omega

theorem Ledger.workerStep {k : Nat} {w : Worker} (hs : Ledger total s) (hlinked : Linked s)
    (hworker : s.workers[k]? = some w) (h : WorkerStep s k w t) : Ledger total t := by
  have hframe := h.frame
  have hcollected := collected_congr hframe.collector
  have hundispatched := undispatched_congr hframe.dispatcher hframe.withheld
  refine ⟨?_, ?_, ?_, ?_⟩
  · intro f
    have hflow := h.flow (f := f) hlinked hworker
    rw [← hs.tally f, Pipeline.tally, hundispatched, hcollected, Pipeline.tally]
    omega
  · rw [hframe.received, hs.received, hcollected]
  · have habandoned := hs.abandoned
    rcases h.counters with ⟨hcounters, htasks⟩ | ⟨task, -, hcounters, htasks⟩
    · rw [hcounters, htasks, habandoned]
    · rw [hcounters, htasks, List.length_append, ← habandoned]
      rfl
  · have hsent := hs.sent
    rcases h.counters with ⟨hcounters, htasks⟩ | ⟨task, hpoint, hcounters, htasks⟩
    · rw [hcounters, htasks, hundispatched, hsent]
    · have hpos := hs.received_lt_sent hworker hpoint
      rw [hcounters, htasks, hundispatched, List.length_append]
      simp only [Counters.recordAbandoned, List.length_singleton]
      omega

theorem Ledger.collectorStep (hs : Ledger total s) (h : CollectorStep s t) : Ledger total t := by
  have hframe := h.frame
  have hundispatched := undispatched_congr hframe.dispatcher hframe.withheld
  refine ⟨?_, ?_, ?_, ?_⟩
  · intro f
    have hflow := h.flow (f := f)
    have hheld := held_congr hframe.workers
    have hhanded := handedOff_congr hframe.dispatcher hframe.handoff
    rw [← hs.tally f, Pipeline.tally, hundispatched, hheld, hhanded, hframe.abandonedTasks,
      Pipeline.tally]
    omega
  · have hreceived := h.received
    have hbefore := hs.received
    omega
  · rw [hframe.abandoned, hs.abandoned, hframe.abandonedTasks]
  · rw [hframe.sent, hframe.abandonedTasks, hundispatched, hs.sent]

/-- Nothing of the books is touched. -/
theorem Ledger.of_eq (hs : Ledger total s) (htally : ∀ f, t.tally f = s.tally f)
    (hcounters : t.counters = s.counters) (hcollected : t.collected = s.collected)
    (htasks : t.abandonedTasks = s.abandonedTasks)
    (hundispatched : t.undispatched = s.undispatched) : Ledger total t where
  tally f := (htally f).trans (hs.tally f)
  received := by rw [hcounters, hcollected, hs.received]
  abandoned := by rw [hcounters, htasks, hs.abandoned]
  sent := by rw [hcounters, htasks, hundispatched, hs.sent]

/-- A late result is not a task given up. -/
theorem ExecutionStep.abandonedTasks {ticket : Nat} (h : ExecutionStep s ticket t) :
    t.abandonedTasks = s.abandonedTasks := by
  cases h with
  | delivered => rfl
  | late e =>
      have hnothing : (lateEvents e).filterMap Event.abandonedTask? = [] := by
        unfold lateEvents
        split <;> rfl
      unfold Pipeline.abandonedTasks
      rw [List.filterMap_append, hnothing, List.append_nil]

theorem Ledger.executionStep {ticket : Nat} (hs : Ledger total s) (h : ExecutionStep s ticket t) :
    Ledger total t := by
  have habandoned := h.abandonedTasks
  cases h with
  | delivered e k w task startedAt hfind hend hworker hpoint =>
      refine hs.of_eq ?_ rfl rfl rfl rfl
      intro f
      have hmove := weigh_held_set f (t := { s with
        executions := s.executions.eraseP (·.ticket == ticket) }.setWorker k w
          (.executing ticket task startedAt (outcomeOf e))) hworker _ rfl
      rw [hpoint] at hmove
      simp only [WorkerPoint.held.eq_1, Nat.add_right_cancel_iff] at hmove
      rw [Pipeline.tally, hmove]
      rfl
  | late e =>
      refine hs.of_eq ?_ rfl rfl habandoned rfl
      intro f
      rw [Pipeline.tally, habandoned]
      rfl

theorem ledger_of_move {m : Move} (hs : Ledger total s) (hlinked : Linked s)
    (h : s.move m = some t) : Ledger total t := by
  cases moveStep_of_move h with
  | dispatcher h => exact hs.dispatcherStep h
  | worker k w hworker h => exact hs.workerStep hlinked hworker h
  | collector h => exact hs.collectorStep h
  | supervisor h =>
      obtain ⟨supervisor, exits, metrics, log, rfl, -, htasks⟩ := supervisorStep_frame h
      refine hs.of_eq ?_ rfl rfl htasks rfl
      intro f
      rw [Pipeline.tally, htasks]
      rfl
  | execution ticket h => exact hs.executionStep h
  | advanced | released => exact hs.of_eq (fun _ => rfl) rfl rfl rfl rfl

theorem map_task_enumerate (jobs : List Job) :
    (Packet.enumerate jobs).map (·.task) = List.range jobs.length := by
  apply List.ext_getElem <;> simp [Packet.enumerate, Packet.new]

theorem ledger_ofRun (config : PipelineConfig) (jobs : List Job) :
    Ledger jobs.length (ofRun config jobs) := by
  have hundispatched : (ofRun config jobs).undispatched = List.range jobs.length := by
    simp [undispatched, ofRun, map_task_enumerate]
  have hheld : (ofRun config jobs).held = [] := by
    simp [held, ofRun]
  refine ⟨?_, rfl, rfl, ?_⟩
  · intro f
    rw [Pipeline.tally, hundispatched, hheld]
    rfl
  · rw [hundispatched, List.length_range]
    exact Nat.zero_add _

theorem ledger_of_reachable {config : PipelineConfig} {jobs : List Job}
    (hs : Reachable config jobs s) : Ledger jobs.length s :=
  hs.induction (ledger_ofRun config jobs) fun _ _ _ hreach ih h =>
    ledger_of_move ih (linked_of_reachable hreach) h

/-! ### One place for every task -/

/-- The places that a state has. -/
def places (s : Pipeline) : List Place :=
  [.undispatched, .handoff, .outbound, .results, .abandoned, .discarded] ++
    (List.range s.workers.length).map .worker

theorem mem_places {i : Nat} {place : Place} (h : i ∈ s.tasksAt place) : place ∈ s.places := by
  cases place with
  | worker k =>
      have hk : k < s.workers.length := by
        by_contra hover
        rw [tasksAt, List.getElem?_eq_none (Nat.le_of_not_lt hover)] at h
        cases h
      exact List.mem_append_right _ (List.mem_map_of_mem (List.mem_range.mpr hk))
  | _ => simp [places]

theorem flatMap_workers (s : Pipeline) :
    ((List.range s.workers.length).map Place.worker).flatMap s.tasksAt = s.held := by
  have hmap : (List.range s.workers.length).map (fun k => s.tasksAt (.worker k)) =
      s.workers.map (·.point.held) := by
    apply List.ext_getElem (by simp)
    intro k hk _
    rw [List.length_map, List.length_range] at hk
    simp [tasksAt, hk]
  rw [List.flatMap_map, held, List.flatMap_def, List.flatMap_def, hmap]

/-- The lists of all places make up the numbers of the tasks. -/
theorem Ledger.perm (hs : Ledger total s) :
    (s.places.flatMap s.tasksAt).Perm (List.range total) := by
  rw [List.perm_iff_count]
  intro i
  have htally := hs.tally fun j => if j = i then 1 else 0
  rw [← weigh_indicator, ← weigh_indicator, ← htally, places, List.flatMap_append, flatMap_workers,
    Pipeline.tally]
  simp [tasksAt]
  omega

theorem Ledger.nodup (hs : Ledger total s) (place : Place) : (s.tasksAt place).Nodup := by
  have hnodup := hs.perm.nodup_iff.mpr List.nodup_range
  cases hplace : s.tasksAt place with
  | nil => exact List.nodup_nil
  | cons i rest =>
      rw [← hplace]
      have hi : i ∈ s.tasksAt place := hplace ▸ List.mem_cons_self
      exact (List.nodup_flatMap.mp hnodup).1 place (mem_places hi)

theorem Ledger.lt_of_mem (hs : Ledger total s) {i : Nat} {place : Place}
    (h : i ∈ s.tasksAt place) : i < total := by
  have hmem : i ∈ s.places.flatMap s.tasksAt := List.mem_flatMap.mpr ⟨place, mem_places h, h⟩
  exact List.mem_range.mp (hs.perm.mem_iff.mp hmem)

theorem Ledger.existsUnique (hs : Ledger total s) {i : Nat} (hi : i < total) :
    ∃! place, i ∈ s.tasksAt place := by
  have hmem : i ∈ s.places.flatMap s.tasksAt := hs.perm.mem_iff.mpr (List.mem_range.mpr hi)
  obtain ⟨place, hplace, htask⟩ := List.mem_flatMap.mp hmem
  have hnodup := hs.perm.nodup_iff.mpr List.nodup_range
  have hdisjoint := (List.nodup_flatMap.mp hnodup).2
  have hsymm : Std.Symm (Function.onFun List.Disjoint s.tasksAt) := ⟨fun _ _ h _ hi hj => h hj hi⟩
  refine ⟨place, htask, ?_⟩
  intro other hother
  by_contra hne
  exact hdisjoint.forall (mem_places hother) hplace hne hother htask

theorem Ledger.apart (hs : Ledger total s) {i : Nat} (here there : Place)
    (hhere : i ∈ s.tasksAt here) (hthere : i ∈ s.tasksAt there) : here = there :=
  (hs.existsUnique (hs.lt_of_mem hhere)).unique hhere hthere

/-- In every reachable state each task is in exactly one place, the counters agree with the places,
and taking an abandoned task back out of `sent` neither saturates nor goes below what arrived. -/
theorem tasks_conserved {config : PipelineConfig} {jobs : List Job}
    (hs : Reachable config jobs s) :
    (∀ i < jobs.length, ∃! place, i ∈ s.tasksAt place) ∧
    (∀ place, (s.tasksAt place).Nodup ∧ ∀ i ∈ s.tasksAt place, i < jobs.length) ∧
    s.counters.received = s.collector.results.length ∧
    s.counters.abandoned = (s.tasksAt .abandoned).length ∧
    s.counters.sent = s.collector.results.length + (s.tasksAt .handoff).length +
      ((List.range s.workers.length).map fun k => (s.tasksAt (.worker k)).length).sum +
      (s.tasksAt .outbound).length + (s.tasksAt .discarded).length ∧
    s.counters.received ≤ s.counters.sent ∧
    ∀ (k : Nat) (w : Worker) (task : Nat), s.workers[k]? = some w →
      (w.point = .timedOut task ∨ w.point = .panicked task) →
      s.counters.recordAbandoned.sent + 1 = s.counters.sent ∧
      s.counters.received ≤ s.counters.recordAbandoned.sent := by
  have hledger := ledger_of_reachable hs
  have hsent := hledger.sent_eq
  have hreceived := hledger.received
  have hheld : s.held.length =
      ((List.range s.workers.length).map fun k => (s.tasksAt (.worker k)).length).sum := by
    rw [← flatMap_workers, List.length_flatMap, List.map_map]
    rfl
  refine ⟨?_, ?_, hledger.received_eq, hledger.abandoned, ?_, by omega, ?_⟩
  · intro i hi
    exact hledger.existsUnique hi
  · intro place
    exact ⟨hledger.nodup place, fun i hi => hledger.lt_of_mem hi⟩
  · rw [hsent, ← hreceived, hledger.received_eq, hheld]
    rfl
  · intro k w task hworker hpoint
    have hlt := hledger.received_lt_sent hworker hpoint
    simp only [Counters.recordAbandoned]
    omega

/-- Of four tasks the first has arrived, the second is about to be given up, the third waits in the
handoff channel and the last is still with the dispatcher. -/
theorem tasks_conserved_midway : ∃ s,
    Reachable { workerCount := 2 } (List.replicate 4 ⟨.hanging, 0⟩) s ∧
    s.workers[1]? = some ⟨1, .timedOut 1⟩ ∧
    (∀ i < 4, ∃! place, i ∈ s.tasksAt place) ∧
    s.counters.recordAbandoned.sent + 1 = s.counters.sent := by
  let handOff := List.replicate 4 (Move.act .dispatcher)
  let moves := handOff ++ [.act (.worker 0)] ++ handOff ++ [.act (.worker 1), .release 0,
    .act (.execution 0), .act (.worker 0), .act (.worker 0), .act .collector, .act .collector,
    .act .collector] ++ handOff ++ [.act .dispatcher, .advance 15, .act (.worker 1)]
  have hrun : ∃ s, (ofRun { workerCount := 2 } (List.replicate 4 ⟨.hanging, 0⟩)).follow moves = some s ∧
      s.workers[1]? = some ⟨1, .timedOut 1⟩ := ⟨_, rfl, rfl⟩
  obtain ⟨s, hfollow, hworker⟩ := hrun
  have hconserved := tasks_conserved ⟨moves, hfollow⟩
  exact ⟨s, ⟨moves, hfollow⟩, hworker, hconserved.1,
    (hconserved.2.2.2.2.2.2 1 _ 1 hworker (.inl rfl)).1⟩

end Pipeline

end Fanout
