import Fanout.Proofs.Pipeline.Packets
import Fanout.Proofs.Pipeline.Reports

/-!
Who took what. A worker begins the work of a packet when it takes it out of the handoff channel, so the
history of takings says for every task whose work began which worker began it (`Ascribed`). A task
leaves the handoff channel for good, and its dispatch was counted by then, so its work begins at most
once (`invoked_weigh_le`), and what is found of it later goes back to the one worker that took it.
-/

namespace Fanout

/-- A worker takes the packet of a task and begins its work. -/
structure Taking where
  worker : Nat
  task : Nat
  deriving DecidableEq, Repr

namespace Pipeline

/-- What is taken by a move. -/
def taking? (s : Pipeline) : Move → Option Taking
  | .act (.worker k) => (s.workers[k]?).bind fun w =>
      if w.point = .idle ∧ s.signal.isShutdown = false then
        s.handoff.buffer.head?.map fun p => ⟨w.id, p.task⟩
      else none
  | _ => none

/-- What is taken while these moves are made. -/
def takings : List Move → Pipeline → List Taking :=
  recorded taking?

/-- The task whose dispatch is counted by a move. -/
def counting? (s : Pipeline) : Move → Option Nat
  | .act .dispatcher =>
      match s.dispatcher.point with
      | .counting i p => if s.counters.cursor = .loading i then some p.task else none
      | _ => none
  | _ => none

/-- The tasks whose dispatch is counted while these moves are made. -/
def countings : List Move → Pipeline → List Nat :=
  recorded counting?

variable {s t : Pipeline} {config : PipelineConfig} {jobs : List Job} {past : List Taking}

/-! ### What is counted -/

/-- A dispatcher counts the dispatch of the packet in its hands, or counts nothing. -/
theorem DispatcherStep.counting_cases (h : DispatcherStep s t) :
    (∃ i p, s.dispatcher.point = .counting i p ∧ s.counting? (.act .dispatcher) = some p.task ∧
      t.counters.dispatched = s.counters.dispatched + 1 ∧ t.metrics = s.metrics ++ [.dispatched]) ∨
    (s.counting? (.act .dispatcher) = none ∧ t.counters.dispatched = s.counters.dispatched ∧
      t.metrics = s.metrics) := by
  cases h with
  | counted i p hpoint hcursor =>
      refine .inl ⟨i, p, hpoint, by simp [counting?, hpoint, hcursor], ?_, rfl⟩
      exact Nat.add_right_comm s.counters.sent 1 s.counters.abandoned
  | refused i p hpoint hcursor => exact .inr ⟨by simp [counting?, hpoint, hcursor], rfl, rfl⟩
  | _ => exact .inr ⟨by simp [counting?, *], rfl, rfl⟩

/-- Tasks are counted in the order of their numbers. -/
theorem dispatched_of_move {m : Move} (hs : Reachable config jobs s) (h : s.move m = some t) :
    List.range t.counters.dispatched =
      List.range s.counters.dispatched ++ (s.counting? m).toList := by
  have hkept (hnothing : s.counting? m = none)
      (hdispatched : t.counters.dispatched = s.counters.dispatched) :
      List.range t.counters.dispatched =
        List.range s.counters.dispatched ++ (s.counting? m).toList := by
    rw [hnothing, hdispatched, Option.toList_none, List.append_nil]
  cases moveBy_of_move h with
  | dispatcher h =>
      rcases h.counting_cases with
        ⟨i, p, hpoint, hcounting, hdispatched, -⟩ | ⟨hnothing, hdispatched, -⟩
      · -- The packet in the dispatcher's hands is the first that is not counted.
        have hfirst : p.task = s.counters.dispatched := by
          have hundispatched := (paced_of_reachable hs).undispatched
          rw [undispatched, hpoint] at hundispatched
          have hhead := congrArg (·[0]?) hundispatched
          rw [List.getElem?_drop] at hhead
          exact (List.getElem?_eq_some_iff.mp hhead.symm).2.symm.trans (List.getElem_range _)
        rw [hcounting, hfirst, hdispatched, List.range_succ]
        rfl
      · exact hkept hnothing hdispatched
  | worker k w hworker h => exact hkept rfl (h.dispatched (ledger_of_reachable hs) hworker)
  | collector h => exact hkept rfl h.dispatched
  | supervisor h =>
      obtain ⟨supervisor, exits, metrics, log, rfl, -, -⟩ := supervisorStep_frame h
      exact hkept rfl rfl
  | execution ticket h => exact hkept rfl (by cases h <;> rfl)
  | advanced | released => exact hkept rfl rfl

theorem countings_eq {moves : List Move} (h : (ofRun config jobs).follow moves = some s) :
    (ofRun config jobs).countings moves = List.range s.counters.dispatched := by
  refine follow_induction (P := fun moves s =>
    (ofRun config jobs).countings moves = List.range s.counters.dispatched) h rfl ?_
  intro before u m v hbefore ih hmove
  rw [countings, recorded_concat counting? hbefore hmove,
    dispatched_of_move ⟨before, hbefore⟩ hmove]
  exact congrArg (· ++ _) ih

/-! ### One step of a worker -/

/-- A worker takes the first packet of the handoff channel and begins its work, or nothing is taken,
nothing is begun and the worker holds nothing new. -/
theorem WorkerStep.takes_or_keeps {k : Nat} {w : Worker} (hlinked : Linked s)
    (hworker : s.workers[k]? = some w) (h : WorkerStep s k w t) :
    (∃ p rest, w.point = .idle ∧ s.handoff.buffer = p :: rest ∧
      s.taking? (.act (.worker k)) = some ⟨w.id, p.task⟩ ∧
      t = { s with handoff := { s.handoff with buffer := rest } }.beginWork k w p) ∨
    (s.taking? (.act (.worker k)) = none ∧ t.invoked = s.invoked ∧
      ∃ point, t.workers = s.workers.set k { w with point } ∧ point.held ⊆ w.point.held) := by
  have htaking : s.taking? (.act (.worker k)) =
      if w.point = .idle ∧ s.signal.isShutdown = false then
        s.handoff.buffer.head?.map fun p => ⟨w.id, p.task⟩
      else none := by
    rw [taking?, hworker, Option.bind_some]
  cases h with
  | took p rest hpoint hsignal hbuffer =>
      refine .inl ⟨p, rest, hpoint, hbuffer, ?_, rfl⟩
      rw [htaking, if_pos ⟨hpoint, hsignal⟩, hbuffer]
      rfl
  | heardReturn ticket task startedAt p hpoint =>
      have htask := (hlinked.waits w (List.mem_of_getElem? hworker) _ _ _ _ hpoint).returned p rfl
      refine .inr ⟨by simp [htaking, hpoint], rfl, _, rfl, ?_⟩
      simp [hpoint, htask]
  | heardPanic _ _ _ hpoint | expired _ _ _ hpoint | countedTimeout _ hpoint
  | countedPanic _ hpoint | forwarded _ hpoint =>
      exact .inr ⟨by simp [htaking, hpoint], rfl, _, rfl, by simp [hpoint]⟩
  | dismissed hpoint hsignal =>
      refine .inr ⟨by simp [htaking, hsignal], ?_, _, rfl, by simp⟩
      simp [endWorker]
  | drained hpoint hsignal hbuffer =>
      refine .inr ⟨by simp [htaking, hbuffer], ?_, _, rfl, by simp⟩
      simp [endWorker]
  | left _ _ _ _ hpoint | leftCrashing _ _ _ _ _ hpoint | dropped _ hpoint
  | droppedCrashing _ _ hpoint | unheard _ hpoint | unheardCrashing _ _ hpoint =>
      refine .inr ⟨by simp [htaking, hpoint], ?_, _, rfl, by simp⟩
      simp [endWorker, crashWorker]

/-! ### A task is begun once -/

/-- A dispatcher neither begins a work nor hands a task over twice. -/
theorem DispatcherStep.invoked_weigh_le (f : Nat → Nat) (h : DispatcherStep s t) :
    weigh f t.invoked + weigh f t.undispatched + weigh f t.handedOff ≤
      weigh f s.invoked + weigh f s.undispatched + weigh f s.handedOff := by
  have hflow := h.flow (f := f)
  have hdiscarded : weigh f s.discarded ≤ weigh f t.discarded := by
    cases h <;> simp [endDispatcher]
  have hinvoked : t.invoked = s.invoked := by
    cases h <;> rfl
  rw [hinvoked]
  omega

theorem weigh_dropReceiver_le (f : Nat → Nat) (c : Channel (Packet Job)) :
    weigh f (c.dropReceiver.buffer.map (·.task)) ≤ weigh f (c.buffer.map (·.task)) := by
  have hlost := weigh_lostWithReceiver (f := f) c
  omega

/-- What a worker begins is no longer in the handoff channel. -/
theorem WorkerStep.invoked_weigh_le {k : Nat} {w : Worker} (f : Nat → Nat)
    (h : WorkerStep s k w t) :
    weigh f t.invoked + weigh f t.undispatched + weigh f t.handedOff ≤
      weigh f s.invoked + weigh f s.undispatched + weigh f s.handedOff := by
  have hlost := weigh_dropReceiver_le f s.handoff
  rw [undispatched_congr h.frame.dispatcher h.frame.withheld, handedOff, h.frame.dispatcher]
  cases h with
  | took p rest hpoint hsignal hbuffer =>
      simp [handedOff, beginWork, hbuffer]
      omega
  | heardReturn | heardPanic | expired | countedTimeout | countedPanic | forwarded =>
      simp [handedOff]
  | dismissed | drained | left | leftCrashing | dropped | droppedCrashing | unheard
  | unheardCrashing =>
      simp [handedOff, endWorker, crashWorker, -Channel.dropReceiver]
      omega

theorem CollectorStep.invoked (h : CollectorStep s t) : t.invoked = s.invoked := by
  cases h with
  | reached seen | continued seen =>
      obtain ⟨log, heq, -⟩ := stopWhenEnough_eq seen s
      simp [heq]
  | _ => rfl

/-- A task that is begun was handed over, and is not handed over again. -/
theorem invoked_weigh_le {m : Move} (f : Nat → Nat) (h : s.move m = some t) :
    weigh f t.invoked + weigh f t.undispatched + weigh f t.handedOff ≤
      weigh f s.invoked + weigh f s.undispatched + weigh f s.handedOff := by
  cases moveStep_of_move h with
  | dispatcher h => exact h.invoked_weigh_le f
  | worker k w hworker h => exact h.invoked_weigh_le f
  | collector h =>
      have hframe := h.frame
      refine Nat.le_of_eq ?_
      rw [h.invoked, undispatched_congr hframe.dispatcher hframe.withheld,
        handedOff_congr hframe.dispatcher hframe.handoff]
  | supervisor h =>
      obtain ⟨supervisor, exits, metrics, log, rfl, -, -⟩ := supervisorStep_frame h
      exact Nat.le_refl _
  | execution ticket h => cases h <;> exact Nat.le_refl _
  | advanced | released => exact Nat.le_refl _

/-- Every task occurs at most once among those that are begun, handed over or not dispatched. -/
theorem count_invoked_le (hs : Reachable config jobs s) (i : Nat) :
    s.invoked.count i + s.undispatched.count i + s.handedOff.count i ≤ 1 := by
  have hall : weigh (fun j => if j = i then 1 else 0) s.invoked +
      weigh (fun j => if j = i then 1 else 0) s.undispatched +
      weigh (fun j => if j = i then 1 else 0) s.handedOff ≤ (List.range jobs.length).count i := by
    refine hs.induction ?_ fun _ _ _ _ ih h => Nat.le_trans (invoked_weigh_le _ h) ih
    have hundispatched : (ofRun config jobs).undispatched = List.range jobs.length := by
      simp [undispatched, ofRun, map_task_enumerate]
    rw [hundispatched, weigh_indicator i (List.range _)]
    simp [handedOff, ofRun]
  rw [weigh_indicator, weigh_indicator, weigh_indicator] at hall
  exact Nat.le_trans hall (List.nodup_iff_count_le_one.mp List.nodup_range i)

theorem nodup_invoked (hs : Reachable config jobs s) : s.invoked.Nodup := by
  rw [List.nodup_iff_count_le_one]
  intro i
  have hcount := count_invoked_le hs i
  omega

/-- A task that waits to be taken was counted, and its work has not begun. -/
theorem handedOff_fresh (hs : Reachable config jobs s) {i : Nat} (hi : i ∈ s.handedOff) :
    i ∉ s.invoked ∧ i < s.counters.dispatched := by
  have hcount := count_invoked_le hs i
  have hpos := List.count_pos_iff.mpr hi
  have hundispatched : i ∉ s.undispatched := List.count_eq_zero.mp (by omega)
  refine ⟨List.count_eq_zero.mp (by omega), ?_⟩
  have hplace : i ∈ s.tasksAt .handoff := hi
  have htask := (ledger_of_reachable hs).lt_of_mem hplace
  rw [(paced_of_reachable hs).undispatched] at hundispatched
  by_contra hlate
  refine hundispatched (List.mem_drop_iff_getElem.mpr ⟨i - s.counters.dispatched, ?_, ?_⟩)
  · rw [List.length_range]
    omega
  · rw [List.getElem_range]
    omega

/-! ### What is found of a task -/

/-- The history of takings names every task whose work began, with the worker that began it: whatever
a worker holds it took itself, and what has left a worker bears the stamp of the one that took it. -/
structure Ascribed (past : List Taking) (s : Pipeline) : Prop where
  invoked : past.map (·.task) = s.invoked
  workers : ∀ x ∈ past, x.worker ∈ s.workers.map (·.id)
  held : ∀ w ∈ s.workers, ∀ i ∈ w.point.held, ⟨w.id, i⟩ ∈ past
  arrivals : ∀ p ∈ s.arrivals, ∀ id, p.worker = some id → ⟨id, p.task⟩ ∈ past

/-- Nothing is taken, and no worker moves on. -/
theorem Ascribed.of_frame (hs : Ascribed past s) (hinvoked : t.invoked = s.invoked)
    (hworkers : t.workers = s.workers) (harrivals : t.arrivals ⊆ s.arrivals) :
    Ascribed past t where
  invoked := hs.invoked.trans hinvoked.symm
  workers := hworkers ▸ hs.workers
  held := hworkers ▸ hs.held
  arrivals p hp := hs.arrivals p (harrivals hp)

/-- The packet that a worker has got back is the one of the task that it holds. -/
theorem Linked.task_held (hs : Linked s) {w : Worker} (hw : w ∈ s.workers) {p : Packet Job}
    (hp : w.point.result? = some p) : p.task ∈ w.point.held := by
  cases hpoint : w.point with
  | executing ticket task startedAt outcome =>
      rw [hpoint] at hp
      cases outcome with
      | returned q =>
          cases hp
          simp [(hs.waits w hw _ _ _ _ hpoint).returned p rfl]
      | running | panicked => cases hp
  | forwarding q =>
      rw [hpoint] at hp
      cases hp
      exact List.mem_singleton.mpr rfl
  | idle | timedOut | panicked | exited | crashed =>
      rw [hpoint] at hp
      cases hp

theorem Ascribed.workerStep {k : Nat} {w : Worker} (hs : Ascribed past s) (hlinked : Linked s)
    (hreturned : ∀ p, w.point.result? = some p → p.IsReturned jobs w.id)
    (hworker : s.workers[k]? = some w) (h : WorkerStep s k w t) :
    Ascribed (past ++ (s.taking? (.act (.worker k))).toList) t := by
  have hw := List.mem_of_getElem? hworker
  have hkept : ∀ {x}, x ∈ past → x ∈ past ++ (s.taking? (.act (.worker k))).toList :=
    fun hx => List.mem_append_left _ hx
  have hids : t.workers.map (·.id) = s.workers.map (·.id) :=
    congrArg Plan.workers (plan_of_workerStep hworker h)
  have harrivals : ∀ p ∈ t.arrivals, ∀ id, p.worker = some id →
      (⟨id, p.task⟩ : Taking) ∈ past ++ (s.taking? (.act (.worker k))).toList := by
    intro p hp id hid
    rcases h.result.2 p hp with hold | hback
    · exact hkept (hs.arrivals p hold id hid)
    · obtain ⟨job, -, -, hpacket⟩ := hreturned p hback
      rw [hpacket] at hid
      cases hid
      exact hkept (hs.held w hw p.task (hlinked.task_held hw hback))
  rcases h.takes_or_keeps hlinked hworker with
    ⟨p, rest, hpoint, hbuffer, htaking, rfl⟩ | ⟨htaking, hinvoked, point, hworkers, hheld⟩
  · rw [htaking] at hkept harrivals ⊢
    refine ⟨?_, ?_, ?_, harrivals⟩
    · simp [hs.invoked, beginWork]
    · intro x hx
      rw [hids]
      rcases List.mem_append.mp hx with hold | hnew
      · exact hs.workers x hold
      · cases List.mem_singleton.mp hnew
        exact List.mem_map_of_mem hw
    · intro v hv i hi
      rcases List.mem_or_eq_of_mem_set hv with hold | rfl
      · exact hkept (hs.held v hold i hi)
      · cases List.mem_singleton.mp hi
        exact List.mem_append_right _ (List.mem_singleton.mpr rfl)
  · rw [htaking] at hkept harrivals ⊢
    refine ⟨?_, ?_, ?_, harrivals⟩
    · simp [hs.invoked, hinvoked]
    · intro x hx
      rw [hids]
      exact hs.workers x (by simpa using hx)
    · intro v hv i hi
      rw [hworkers] at hv
      rcases List.mem_or_eq_of_mem_set hv with hold | rfl
      · exact hkept (hs.held v hold i hi)
      · exact hkept (hs.held w hw i (hheld hi))

theorem Ascribed.executionStep {ticket : Nat} (hs : Ascribed past s) (h : ExecutionStep s ticket t) :
    Ascribed past t := by
  cases h with
  | delivered e k w task startedAt hfind hend hworker hpoint =>
      have hw := List.mem_of_getElem? hworker
      refine ⟨hs.invoked, ?_, ?_, hs.arrivals⟩
      · have hids := map_id_set hworker (.executing ticket task startedAt (outcomeOf e))
        exact fun x hx => hids ▸ hs.workers x hx
      · intro v hv i hi
        rcases List.mem_or_eq_of_mem_set hv with hold | rfl
        · exact hs.held v hold i hi
        · refine hs.held w hw i ?_
          rw [hpoint]
          exact hi
  | late => exact hs.of_frame rfl rfl (List.Subset.refl _)

theorem Ascribed.move {m : Move} (hs : Ascribed past s) (hreach : Reachable config jobs s)
    (h : s.move m = some t) : Ascribed (past ++ (s.taking? m).toList) t := by
  have hkept (hnothing : s.taking? m = none) (ht : Ascribed past t) :
      Ascribed (past ++ (s.taking? m).toList) t := by
    rw [hnothing, Option.toList_none, List.append_nil]
    exact ht
  cases moveBy_of_move h with
  | dispatcher h =>
      have hframe := h.frame
      refine hkept rfl (hs.of_frame (by cases h <;> rfl) hframe.workers ?_)
      rw [Pipeline.arrivals, hframe.collector, hframe.outbound]
      exact List.Subset.refl _
  | worker k w hworker h =>
      have hw := List.mem_of_getElem? hworker
      exact hs.workerStep (linked_of_reachable hreach)
        (fun p hp => returned_of_worker hreach hw hp) hworker h
  | collector h => exact hkept rfl (hs.of_frame h.invoked h.frame.workers h.arrivals_subset)
  | supervisor h =>
      obtain ⟨supervisor, exits, metrics, log, rfl, -, -⟩ := supervisorStep_frame h
      exact hkept rfl (hs.of_frame rfl rfl (List.Subset.refl _))
  | execution ticket h => exact hkept rfl (hs.executionStep h)
  | advanced | released => exact hkept rfl (hs.of_frame rfl rfl (List.Subset.refl _))

theorem ascribed_of_follow {moves : List Move} (h : (ofRun config jobs).follow moves = some s) :
    Ascribed ((ofRun config jobs).takings moves) s := by
  refine follow_induction (P := fun moves s => Ascribed ((ofRun config jobs).takings moves) s) h ?_ ?_
  · refine ⟨rfl, ?_, ?_, ?_⟩
    · intro x hx
      cases hx
    · intro w hw i hi
      obtain ⟨id, -, rfl⟩ := List.mem_map.mp hw
      cases hi
    · intro p hp
      cases hp
  · intro before u m v hbefore ih hmove
    rw [takings, recorded_concat taking? hbefore hmove]
    exact ih.move ⟨before, hbefore⟩ hmove

theorem Ascribed.taker_unique (hs : Ascribed past s) (hreach : Reachable config jobs s)
    {v w i : Nat} (hv : ⟨v, i⟩ ∈ past) (hw : ⟨w, i⟩ ∈ past) : v = w := by
  have hnodup : (past.map (·.task)).Nodup := by
    rw [hs.invoked]
    exact nodup_invoked hreach
  have hsame := List.inj_on_of_nodup_map hnodup hv hw rfl
  exact congrArg Taking.worker hsame

/-- A move takes a packet out of the handoff channel and begins its work, or begins nothing. -/
theorem begins_or_rests_of_move {m : Move} (hs : Reachable config jobs s)
    (h : s.move m = some t) :
    (∃ (k : Nat) (w : Worker) (p : Packet Job) (rest : List (Packet Job)),
      m = .act (.worker k) ∧ s.workers[k]? = some w ∧ w.point = .idle ∧
      s.handoff.buffer = p :: rest ∧ t.handoff.buffer = rest ∧
      s.taking? m = some ⟨w.id, p.task⟩ ∧ t.invoked = s.invoked ++ [p.task] ∧
      t.executions = s.executions ++ [⟨s.nextTicket, s.now, p.stamp w.id⟩]) ∨
    (s.taking? m = none ∧ t.invoked = s.invoked ∧ t.executions.Sublist s.executions) := by
  cases moveBy_of_move h with
  | worker k w hworker h =>
      rcases h.takes_or_keeps (linked_of_reachable hs) hworker with
        ⟨p, rest, hpoint, hbuffer, htaking, rfl⟩ | ⟨htaking, hinvoked, -⟩
      · exact .inl ⟨k, w, p, rest, rfl, hworker, hpoint, hbuffer, rfl, htaking, rfl, rfl⟩
      · rcases h.begins_or_rests with ⟨p, rest, -, rfl⟩ | ⟨hexecutions, -⟩
        · exact absurd hinvoked (by simp [beginWork])
        · exact .inr ⟨htaking, hinvoked, hexecutions ▸ List.Sublist.refl _⟩
  | dispatcher h =>
      exact .inr ⟨rfl, by cases h <;> rfl, h.frame.executions ▸ List.Sublist.refl _⟩
  | collector h => exact .inr ⟨rfl, h.invoked, h.frame.executions ▸ List.Sublist.refl _⟩
  | supervisor h =>
      obtain ⟨supervisor, exits, metrics, log, rfl, -, -⟩ := supervisorStep_frame h
      exact .inr ⟨rfl, rfl, List.Sublist.refl _⟩
  | execution ticket h => cases h <;> exact .inr ⟨rfl, rfl, List.eraseP_sublist⟩
  | advanced | released => exact .inr ⟨rfl, rfl, List.Sublist.refl _⟩

/-- In every run, whatever the order of its moves, the work of a task begins when a worker takes its
packet out of the handoff channel and at no other time, not before the dispatch of the task was counted
(tasks are counted in the order of their numbers), and never a second time. Every packet that arrives bears the number of the one worker that
took it and carries the item of its place in the input as that one invocation left it, and no two
packets are of one task. -/
theorem executed_once_with_faithful_stamp {moves : List Move}
    (h : (ofRun config jobs).follow moves = some s) :
    s.invoked.Nodup ∧
    ((ofRun config jobs).takings moves).map (·.task) = s.invoked ∧
    (ofRun config jobs).countings moves = List.range s.counters.dispatched ∧
    (∀ m t, s.move m = some t →
      (∃ (k : Nat) (w : Worker) (p : Packet Job) (rest : List (Packet Job)),
        m = .act (.worker k) ∧ s.workers[k]? = some w ∧ w.point = .idle ∧
        s.handoff.buffer = p :: rest ∧ t.handoff.buffer = rest ∧
        s.taking? m = some ⟨w.id, p.task⟩ ∧ t.invoked = s.invoked ++ [p.task] ∧
        t.executions = s.executions ++ [⟨s.nextTicket, s.now, p.stamp w.id⟩] ∧
        p.task ∉ s.invoked ∧ p.task ∈ (ofRun config jobs).countings moves) ∨
      (s.taking? m = none ∧ t.invoked = s.invoked ∧ t.executions.Sublist s.executions)) ∧
    (∀ p ∈ s.collector.results, ∃ w < config.workerCount, ∃ job, jobs[p.task]? = some job ∧
      p = { task := p.task, worker := some w, item := job.afterRun } ∧
      ∀ v, ⟨v, p.task⟩ ∈ (ofRun config jobs).takings moves ↔ v = w) ∧
    (s.collector.results.map (·.task)).Nodup ∧
    ∀ report, s.runReport? = some report → report.packets = s.collector.results := by
  have hreach : Reachable config jobs s := ⟨moves, h⟩
  have hascribed := ascribed_of_follow h
  refine ⟨nodup_invoked hreach, hascribed.invoked, countings_eq h, ?_, ?_,
    (ledger_of_reachable hreach).nodup .results,
    fun report hreport => (runReport?_eq_some hreport).2.1⟩
  · intro m t hmove
    refine (begins_or_rests_of_move hreach hmove).imp_left ?_
    rintro ⟨k, w, p, rest, hm, hworker, hpoint, hbuffer, hrest, htaking, hinvoked, hexecutions⟩
    have hhanded : p.task ∈ s.handedOff := by
      rw [handedOff, hbuffer]
      exact List.mem_append_right _ List.mem_cons_self
    obtain ⟨hfresh, hcounted⟩ := handedOff_fresh hreach hhanded
    refine ⟨k, w, p, rest, hm, hworker, hpoint, hbuffer, hrest, htaking, hinvoked, hexecutions,
      hfresh, ?_⟩
    rw [countings_eq h]
    exact List.mem_range.mpr hcounted
  · intro p hp
    obtain ⟨w, hw, ⟨job, hjob, -, hpacket⟩, -⟩ := returned_of_result h hp
    refine ⟨w, hw, job, hjob, hpacket, ?_⟩
    have htaken : ⟨w, p.task⟩ ∈ (ofRun config jobs).takings moves :=
      hascribed.arrivals p (List.mem_append_left _ (List.mem_append_left _ hp)) w (by rw [hpacket])
    exact fun v => ⟨fun hv => hascribed.taker_unique hreach hv htaken, fun hv => hv ▸ htaken⟩

/-- Two workers take one task each; the second one's has arrived when the first one's deadline
comes. -/
theorem executed_once_with_faithful_stamp_of_two : ∃ moves s,
    (ofRun { workerCount := 2 } [⟨.hanging, 0⟩, ⟨.instant, 0⟩]).follow moves = some s ∧
    s.collector.results = [⟨1, some 1, ⟨.instant, 1⟩⟩] ∧ s.invoked = [0, 1] ∧
    s.invoked.Nodup ∧
    ∀ v, ⟨v, 1⟩ ∈
      (ofRun { workerCount := 2 } [⟨.hanging, 0⟩, ⟨.instant, 0⟩]).takings moves ↔ v = 1 := by
  let handOff := List.replicate 4 (Move.act .dispatcher)
  let moves := handOff ++ [.act (.worker 0)] ++ handOff ++ [.act (.worker 1), .act (.execution 1),
    .act (.worker 1), .act (.worker 1), .act .collector, .act .collector, .act .collector]
  have hrun : ∃ s, (ofRun { workerCount := 2 } [⟨.hanging, 0⟩, ⟨.instant, 0⟩]).follow moves = some s ∧
      s.collector.results = [⟨1, some 1, ⟨.instant, 1⟩⟩] ∧ s.invoked = [0, 1] :=
    ⟨_, rfl, rfl, rfl⟩
  obtain ⟨s, hfollow, hresults, hinvoked⟩ := hrun
  obtain ⟨hnodup, -, -, -, hstamp, -, -⟩ := executed_once_with_faithful_stamp hfollow
  obtain ⟨w, -, job, -, hpacket, hunique⟩ := hstamp ⟨1, some 1, ⟨.instant, 1⟩⟩ (by simp [hresults])
  injection hpacket with _ hworker
  cases hworker
  exact ⟨moves, s, hfollow, hresults, hinvoked, hnodup, hunique⟩

end Pipeline

end Fanout
