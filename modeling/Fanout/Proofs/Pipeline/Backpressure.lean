import Fanout.Proofs.Pipeline.Reports

/-!
How far the dispatcher runs ahead. Every task that was counted and has not arrived takes up a slot of
the handoff channel, a worker or the one slot of the outbound channel, and when a stage drops it, the
place that it took up is not filled again (`load_le`). Since the loading stops as soon as enough has
arrived (`Unsated`), there is a bound on all that is ever dispatched.
-/

namespace Fanout

/-- The number of results after which no dispatch is counted any more. A run that drains looks at its
target only when a result has arrived. -/
def ShutdownMode.quota : ShutdownMode → Nat → Nat
  | .gracefulDrain, want => max want 1
  | .abandon, want => want

theorem ShutdownMode.want_le_quota (mode : ShutdownMode) (want : Nat) : want ≤ mode.quota want := by
  cases mode with
  | gracefulDrain => exact Nat.le_max_left _ _
  | abandon => exact Nat.le_refl _

theorem WorkerPoint.length_held_le (point : WorkerPoint) : point.held.length ≤ 1 := by
  cases point <;> simp [held]

namespace Pipeline

variable {s t : Pipeline} {total : Nat}

theorem length_held_le (s : Pipeline) : s.held.length ≤ s.workers.length := by
  unfold held
  induction s.workers with
  | nil => exact Nat.le_refl _
  | cons w rest ih =>
      have hone := w.point.length_held_le
      simp only [List.flatMap_cons, List.length_append, List.length_cons]
      omega

/-! ### Both channels keep to their capacities -/

structure Fits (s : Pipeline) : Prop where
  handoff : s.handoff.buffer.length + s.handoff.reserved ≤ s.handoff.capacity
  outbound : s.outbound.buffer.length + s.outbound.reserved ≤ s.outbound.capacity

theorem length_push_le {α : Type} (x : α) (c : Channel α) :
    (c.push x).buffer.length ≤ c.buffer.length + 1 := by
  rw [Channel.push_buffer]
  split
  · exact Nat.le_succ _
  · exact Nat.le_of_eq List.length_append

theorem Fits.dispatcherStep (hs : Fits s) (hwired : Wired s) (h : DispatcherStep s t) : Fits t := by
  refine ⟨?_, h.frame.outbound ▸ hs.outbound⟩
  have hfits := hs.handoff
  cases h with
  | reserved i p hpoint hsignal hreceivers hroom =>
      simp only [Channel.hasRoom, decide_eq_true_eq] at hroom
      simp only [Channel.reserve, setDispatcher]
      omega
  | committed p hpoint =>
      have hslot : s.handoff.reserved = 1 := by
        rw [hwired.handoffReserved, hpoint]
        rfl
      have hpush := length_push_le p s.handoff.release
      simp only [Channel.release] at hpush
      simp only [Channel.commit, strand, discard, setDispatcher, Channel.push_reserved,
        Channel.push_capacity, Channel.release]
      omega
  | refused =>
      simp only [endDispatcher, record, Channel.dropSender, Channel.release]
      omega
  | _ => simpa [endDispatcher] using hfits

theorem Fits.workerStep {k : Nat} {w : Worker} (hs : Fits s) (h : WorkerStep s k w t) : Fits t := by
  have hhandoff := hs.handoff
  have houtbound := hs.outbound
  have hlost := Channel.length_dropReceiver_le s.handoff
  cases h with
  | took p rest hpoint hsignal hbuffer =>
      rw [hbuffer, List.length_cons] at hhandoff
      refine ⟨?_, houtbound⟩
      simp only [beginWork, setWorker]
      omega
  | forwarded p hpoint hsignal hreceivers hroom =>
      have hpush := length_push_le p s.outbound
      simp only [Channel.hasRoom, decide_eq_true_eq] at hroom
      refine ⟨hhandoff, ?_⟩
      simp only [setWorker, Channel.push_reserved, Channel.push_capacity]
      omega
  | heardReturn | heardPanic | expired | countedTimeout | countedPanic =>
      exact ⟨hhandoff, houtbound⟩
  | dismissed | drained | left | leftCrashing | dropped | droppedCrashing | unheard
  | unheardCrashing =>
      exact ⟨Nat.le_trans (Nat.add_le_add_right hlost _) hhandoff, houtbound⟩

theorem Fits.collectorStep (hs : Fits s) (h : CollectorStep s t) : Fits t := by
  refine ⟨h.frame.handoff ▸ hs.handoff, ?_⟩
  have houtbound := hs.outbound
  cases h with
  | took p rest nextTick hpoint hsignal hbuffer =>
      rw [hbuffer, List.length_cons] at houtbound
      simp only [setCollector]
      omega
  | reached seen nextTick | continued seen nextTick =>
      obtain ⟨log, heq, -⟩ := stopWhenEnough_eq seen s
      rw [heq]
      exact houtbound
  | reported exit =>
      have hlost := Channel.length_dropReceiver_le s.outbound
      exact Nat.le_trans (Nat.add_le_add_right hlost _) houtbound
  | _ => exact houtbound

variable {config : PipelineConfig} {jobs : List Job}

theorem fits_of_reachable (hs : Reachable config jobs s) : Fits s := by
  refine hs.induction ⟨Nat.zero_le _, Nat.zero_le _⟩ fun s m t hreach ih hmove => ?_
  cases moveStep_of_move hmove with
  | dispatcher h => exact ih.dispatcherStep (wired_of_reachable hreach) h
  | worker k w hworker h => exact ih.workerStep h
  | collector h => exact ih.collectorStep h
  | supervisor h =>
      obtain ⟨supervisor, exits, metrics, log, rfl, -, -⟩ := supervisorStep_frame h
      exact ⟨ih.handoff, ih.outbound⟩
  | execution ticket h => cases h <;> exact ⟨ih.handoff, ih.outbound⟩
  | advanced | released => exact ⟨ih.handoff, ih.outbound⟩

/-! ### The load -/

/-- The slots and workers that are taken, and what was dropped from one. -/
def load (s : Pipeline) : Nat :=
  s.handoff.buffer.length + s.handoff.reserved + s.held.length + s.outbound.buffer.length +
    s.discarded.length

theorem length_lostWithReceiver (c : Channel (Packet Job)) :
    c.dropReceiver.buffer.length + c.lostWithReceiver.length = c.buffer.length := by
  have hlost := weigh_lostWithReceiver (f := fun _ => 1) c
  simpa only [weigh_one, List.length_map] using hlost

/-- Once the signal is closed the dispatcher takes up no further slot. -/
theorem DispatcherStep.load_le (hwired : Wired s) (hclosed : s.signal.isShutdown = true)
    (h : DispatcherStep s t) : t.load ≤ s.load := by
  have hheld := congrArg List.length (held_congr h.frame.workers)
  simp only [load, hheld, h.frame.outbound]
  cases h with
  | reserved i p hpoint hsignal => rw [hclosed] at hsignal; cases hsignal
  | committed p hpoint =>
      have hslot : s.handoff.reserved = 1 := by
        rw [hwired.handoffReserved, hpoint]
        rfl
      by_cases hreceivers : s.handoff.receivers = 0 <;>
        simp [Channel.push_buffer, hreceivers] <;> omega
  | _ => simp [endDispatcher]

/-- Once the signal is closed a worker takes nothing and forwards nothing. -/
theorem WorkerStep.load_le {k : Nat} {w : Worker} (hworker : s.workers[k]? = some w)
    (hclosed : s.signal.isShutdown = true) (h : WorkerStep s k w t) : t.load ≤ s.load := by
  have hmoves := weigh_held_set (t := t) (fun _ => 1) hworker
  have hlost := length_lostWithReceiver s.handoff
  simp only [weigh_one] at hmoves
  cases h with
  | took p rest hpoint hsignal | drained hpoint hsignal | heardReturn _ _ _ _ hpoint hsignal
  | heardPanic _ _ _ hpoint hsignal | expired _ _ _ hpoint hsignal
  | unheardCrashing _ _ hpoint hsignal | unheard _ hpoint hsignal | forwarded _ hpoint hsignal =>
      rw [hclosed] at hsignal
      cases hsignal
  | countedTimeout task hpoint | countedPanic task hpoint =>
      have hmove := hmoves _ rfl
      simp [load, hpoint] at hmove ⊢
      omega
  | dismissed hpoint | left _ _ _ _ hpoint | leftCrashing _ _ _ _ _ hpoint
  | dropped _ hpoint | droppedCrashing _ _ hpoint =>
      have hmove := hmoves _ rfl
      simp [load, endWorker, crashWorker, -Channel.dropReceiver, hpoint] at hmove ⊢
      have hreserved : s.handoff.dropReceiver.reserved = s.handoff.reserved := rfl
      omega

theorem CollectorStep.load_le (h : CollectorStep s t) : t.load ≤ s.load := by
  have hheld := congrArg List.length (held_congr h.frame.workers)
  simp only [load, hheld, h.frame.handoff]
  cases h with
  | took p rest nextTick hpoint hsignal hbuffer => simp [hbuffer]
  | reached seen nextTick | continued seen nextTick =>
      obtain ⟨log, heq, -⟩ := stopWhenEnough_eq seen s
      simp [heq]
  | reported exit =>
      have hlost := length_lostWithReceiver s.outbound
      simp [endCollector, -Channel.dropReceiver]
      omega
  | _ => simp [accept]

/-- While the signal is open the parts of the load fit where they are. -/
theorem load_le_of_open (hfits : Fits s) (hdiscarded : s.discarded = []) :
    s.load ≤ s.handoff.capacity + s.workers.length + s.outbound.capacity := by
  have hhandoff := hfits.handoff
  have houtbound := hfits.outbound
  have hheld := length_held_le s
  rw [load, hdiscarded, List.length_nil]
  omega

/-- A work that ends leaves its task where it is. -/
theorem ExecutionStep.weigh_held (f : Nat → Nat) {ticket : Nat} (h : ExecutionStep s ticket t) :
    weigh f t.held = weigh f s.held := by
  cases h with
  | delivered e k w task startedAt hfind hend hworker hpoint =>
      have hmove := weigh_held_set f (t := { s with
        executions := s.executions.eraseP (·.ticket == ticket) }.setWorker k w
          (.executing ticket task startedAt (outcomeOf e))) hworker _ rfl
      rw [hpoint] at hmove
      exact Nat.add_right_cancel hmove
  | late => rfl

/-- The signal was closed before, or the collector has just closed it. -/
theorem load_le_of_closed {m : Move} {bound : Nat} (hwired : Wired s) (hs : s.load ≤ bound)
    (h : s.move m = some t) (hclosed : t.signal.isShutdown = true) : t.load ≤ bound := by
  refine Nat.le_trans ?_ hs
  cases moveStep_of_move h with
  | dispatcher h => exact h.load_le hwired (h.frame.signal ▸ hclosed)
  | worker k w hworker h => exact h.load_le hworker (h.frame.signal ▸ hclosed)
  | collector h => exact h.load_le
  | supervisor h =>
      obtain ⟨supervisor, exits, metrics, log, rfl, -, -⟩ := supervisorStep_frame h
      exact Nat.le_refl _
  | execution ticket h =>
      have hheld := h.weigh_held (fun _ => 1)
      rw [weigh_one, weigh_one] at hheld
      rw [load, hheld, load]
      cases h <;> exact Nat.le_refl _
  | advanced | released => exact Nat.le_refl _

theorem load_le (hvalid : config.defect? = none) (hs : Reachable config jobs s) :
    s.load ≤ config.handoffCapacity + config.workerCount + 1 := by
  have hcount := (defect?_eq_none hvalid).1
  have hopen : ∀ {u}, Reachable config jobs u → u.signal.isShutdown = false →
      u.load ≤ config.handoffCapacity + config.workerCount + 1 := by
    intro u hu hsignal
    have hplan := plan_of_reachable hu
    have hhandoff : u.handoff.capacity = config.handoffCapacity := congrArg Plan.handoffCapacity hplan
    have houtbound : u.outbound.capacity = 1 := congrArg Plan.outboundCapacity hplan
    have hload := load_le_of_open (fits_of_reachable hu)
      (orderly_of_reachable hu hcount hsignal).discarded
    rwa [hhandoff, houtbound, length_workers_of_reachable hu] at hload
  refine hs.induction (hopen .start rfl) fun u m v hreach ih hmove => ?_
  cases hsignal : v.signal.isShutdown with
  | false => exact hopen (hreach.move hmove) hsignal
  | true => exact load_le_of_closed (wired_of_reachable hreach) ih hmove hsignal

/-- What was counted and has not arrived is part of the load or in the collector's hands. -/
theorem sent_le_load (hwired : Wired s) (hledger : Ledger total s) :
    s.counters.sent ≤ s.counters.received + s.load + s.collector.point.taken.length := by
  have hsent := hledger.sent_eq
  have hreserved := hwired.handoffReserved
  have hcounted : s.dispatcher.point.counted.length ≤ s.dispatcher.point.holdsSlot.toNat := by
    cases s.dispatcher.point <;> simp
  rw [hledger.received]
  simp only [handedOff, outgoing, List.length_append, List.length_map] at hsent
  unfold load
  omega

/-! ### The loading stops in time -/

/-- Less than the quota has arrived, or the collector is about to see that it has. -/
def Unsated (s : Pipeline) : CollectorPoint → Prop
  | .starting => s.counters.received = 0
  | .counted seen _ =>
      s.counters.received ≤ s.collector.mode.quota s.collector.want ∧
        (seen.want ≤ seen.received ∨
          s.counters.received < s.collector.mode.quota s.collector.want)
  | _ => s.counters.received < s.collector.mode.quota s.collector.want

theorem Unsated.received_le {point : CollectorPoint} (hs : Unsated s point) :
    s.counters.received ≤ s.collector.mode.quota s.collector.want := by
  cases point with
  | starting => exact Nat.le_trans (Nat.le_of_eq hs) (Nat.zero_le _)
  | counted => exact hs.1
  | _ => exact Nat.le_of_lt hs

/-- Another actor moves. -/
theorem Unsated.of_frame {point : CollectorPoint} (hs : Unsated s point)
    (hcollector : t.collector = s.collector)
    (hreceived : t.counters.received = s.counters.received) : Unsated t point := by
  cases point <;> simp only [Unsated, hcollector, hreceived] at hs ⊢ <;> exact hs

theorem Unsated.collectorStep (hpaced : Paced total s)
    (hs : s.counters.cursor ≠ .stopped → Unsated s s.collector.point) (h : CollectorStep s t)
    (hloading : t.counters.cursor ≠ .stopped) : Unsated t t.collector.point := by
  have hbefore := hs fun hstopped => hloading (h.onward.stopped hstopped)
  cases h with
  | sated => exact absurd rfl hloading
  | began hpoint htarget =>
      rw [hpoint] at hbefore
      show s.counters.received < s.collector.mode.quota s.collector.want
      rw [show s.counters.received = 0 from hbefore]
      cases hmode : s.collector.mode with
      | gracefulDrain => exact Nat.le_max_right _ _
      | abandon => exact Nat.lt_of_le_of_lt (Nat.zero_le _) (lt_want_of_not_reached htarget hmode)
  | accepted p nextTick hpoint =>
      rw [hpoint] at hbefore
      have hwant := ShutdownMode.want_le_quota s.collector.mode s.collector.want
      have hmarker := hpaced.want
      change s.counters.received < s.collector.mode.quota s.collector.want at hbefore
      refine ⟨hbefore, ?_⟩
      show s.counters.want ≤ s.counters.received + 1 ∨
        s.counters.received + 1 < s.collector.mode.quota s.collector.want
      split at hmarker <;> omega
  | reached seen nextTick hpoint htarget | continued seen nextTick hpoint htarget =>
      rw [hpoint] at hbefore
      obtain ⟨log, heq, -⟩ := stopWhenEnough_eq seen s
      rw [heq] at hloading ⊢
      have hunmet : ¬ seen.want ≤ seen.received := by
        intro hmet
        rw [if_pos hmet] at hloading
        exact hloading rfl
      rw [if_neg hunmet]
      exact hbefore.2.resolve_left hunmet
  | interrupted nextTick hpoint | took p rest nextTick hpoint | deserted nextTick hpoint
  | ticked nextTick hpoint | drained nextTick hpoint | undrained nextTick hpoint
  | closedPausing exit hpoint | closed exit hpoint | woke exit wake hpoint =>
      rw [hpoint] at hbefore
      exact hbefore
  | reported exit hpoint =>
      rw [hpoint] at hbefore
      have hends : Unsated (s.endCollector exit) (.afterDropping exit s.outbound.lostWithReceiver) =
          Unsated s (.reporting exit) :=
        CollectorPoint.apply_afterDropping (Unsated (s.endCollector exit)) rfl (fun _ => rfl) _
      exact hends.mpr hbefore

theorem unsated_of_reachable (hs : Reachable config jobs s)
    (hloading : s.counters.cursor ≠ .stopped) : Unsated s s.collector.point := by
  revert hloading
  refine hs.induction (fun _ => rfl) fun s m t hreach ih hmove hloading => ?_
  have honward := onward_of_move hmove
  have hbefore := fun hstopped => hloading (honward.stopped hstopped)
  cases moveStep_of_move hmove with
  | dispatcher h =>
      rw [h.frame.collector]
      exact (ih hbefore).of_frame h.frame.collector h.frame.received
  | worker k w hworker h =>
      rw [h.frame.collector]
      exact (ih hbefore).of_frame h.frame.collector h.frame.received
  | collector h => exact Unsated.collectorStep (paced_of_reachable hreach) ih h hloading
  | supervisor h =>
      obtain ⟨supervisor, exits, metrics, log, rfl, -, -⟩ := supervisorStep_frame h
      exact (ih hbefore).of_frame rfl rfl
  | execution ticket h => cases h <;> exact (ih hbefore).of_frame rfl rfl
  | advanced | released => exact (ih hbefore).of_frame rfl rfl

/-! ### The bound -/

theorem sent_le_of_loading (hvalid : config.defect? = none) (hs : Reachable config jobs s)
    (hloading : s.counters.cursor ≠ .stopped) :
    s.counters.sent ≤ config.shutdownMode.quota config.want +
      (config.handoffCapacity + config.workerCount + 1) := by
  have hsent := sent_le_load (wired_of_reachable hs) (ledger_of_reachable hs)
  have hload := load_le hvalid hs
  have hunsated := unsated_of_reachable hs hloading
  have hreceived := hunsated.received_le
  rw [mode_of_reachable hs, want_of_reachable hs] at hreceived
  cases hpoint : s.collector.point with
  | accepting p nextTick =>
      -- The packet in the collector's hands is one of the quota.
      rw [hpoint] at hsent hunsated
      have hroom : s.counters.received < s.collector.mode.quota s.collector.want := hunsated
      rw [mode_of_reachable hs, want_of_reachable hs] at hroom
      simp only [CollectorPoint.taken, List.length_singleton] at hsent
      omega
  | _ =>
      rw [hpoint] at hsent
      simp only [CollectorPoint.taken, List.length_nil] at hsent
      omega

/-- Only the dispatcher counts, and only while it is loading. -/
theorem sent_le_of_stopped {m : Move} (h : s.move m = some t)
    (hstopped : t.counters.cursor = .stopped) : t.counters.sent ≤ s.counters.sent := by
  cases moveStep_of_move h with
  | dispatcher h =>
      cases h with
      | counted => cases hstopped
      | _ => exact Nat.le_refl _
  | worker k w hworker h =>
      rcases h.counters with ⟨hcounters, -⟩ | ⟨task, -, hcounters, -⟩
      · exact Nat.le_of_eq (by rw [hcounters])
      · rw [hcounters]
        exact Nat.sub_le _ _
  | collector h => exact Nat.le_of_eq h.frame.sent
  | supervisor h =>
      obtain ⟨supervisor, exits, metrics, log, rfl, -, -⟩ := supervisorStep_frame h
      exact Nat.le_refl _
  | execution ticket h => cases h <;> exact Nat.le_refl _
  | advanced | released => exact Nat.le_refl _

theorem sent_le_of_reachable (hvalid : config.defect? = none) (hs : Reachable config jobs s) :
    s.counters.sent ≤ config.shutdownMode.quota config.want +
      (config.handoffCapacity + config.workerCount + 1) := by
  refine hs.induction (Nat.zero_le _) fun s m t hreach ih hmove => ?_
  by_cases hstopped : t.counters.cursor = .stopped
  · exact Nat.le_trans (sent_le_of_stopped hmove hstopped) ih
  · exact sent_le_of_loading hvalid (hreach.move hmove) hstopped

/-- Backpressure bounds the dispatching. Outside the moment in which the collector has a packet in its
hands, no more tasks are under way than there are slots and workers; the number of dispatches that are
not taken back exceeds the quota by no more than that, and so does the number of results. -/
theorem dispatch_bounded (hvalid : config.defect? = none) (hs : Reachable config jobs s) :
    ((∀ p nextTick, s.collector.point ≠ .accepting p nextTick) →
      s.counters.sent - s.counters.received ≤ config.handoffCapacity + config.workerCount + 1) ∧
    s.counters.sent ≤
      config.shutdownMode.quota config.want + config.handoffCapacity + config.workerCount + 1 ∧
    ∀ report, s.runReport? = some report →
      report.packets.length ≤ min jobs.length
        (config.shutdownMode.quota config.want + config.handoffCapacity + config.workerCount + 1) := by
  have hledger := ledger_of_reachable hs
  have hsent := sent_le_of_reachable hvalid hs
  refine ⟨?_, by omega, ?_⟩
  · intro houtside
    have hload := load_le hvalid hs
    have hbound := sent_le_load (wired_of_reachable hs) hledger
    have htaken : s.collector.point.taken = [] := by
      cases hpoint : s.collector.point with
      | accepting p nextTick => exact absurd hpoint (houtside p nextTick)
      | _ => rfl
    rw [htaken, List.length_nil] at hbound
    omega
  · intro report hreport
    obtain ⟨-, hpackets, -⟩ := runReport?_eq_some hreport
    have hreceived := hledger.received_eq
    have hcounted := hledger.sent_eq
    have hall := hledger.dispatched_le
    rw [hledger.received] at hreceived
    rw [hpackets, Nat.le_min, ← hreceived]
    unfold Counters.dispatched at hall
    omega

/-- With one worker and one slot, the collector takes the first result and every place behind it is
taken up again. -/
def saturation : List Move :=
  let handOff := List.replicate 4 (Move.act .dispatcher)
  let work (ticket : Nat) := [Move.act (.execution ticket), .act (.worker 0), .act (.worker 0)]
  [.act .collector] ++ handOff ++ [.act (.worker 0)] ++ work 0 ++ [.act .collector] ++
    handOff ++ [.act (.worker 0)] ++ work 1 ++ handOff ++ [.act (.worker 0)] ++ handOff

/-- The bound is attained. -/
theorem dispatch_bounded_attained : ∃ s,
    Reachable { workerCount := 1, want := 1 } (List.replicate 5 ⟨.instant, 0⟩) s ∧
    s.counters.sent = 4 ∧ s.counters.sent ≤ 1 + 1 + 1 + 1 := by
  have hrun : ∃ s, (ofRun { workerCount := 1, want := 1 }
      (List.replicate 5 ⟨.instant, 0⟩)).follow saturation = some s ∧ s.counters.sent = 4 :=
    ⟨_, rfl, rfl⟩
  obtain ⟨s, hmoves, hsent⟩ := hrun
  have hreach : Reachable { workerCount := 1, want := 1 } (List.replicate 5 ⟨.instant, 0⟩) s :=
    ⟨saturation, hmoves⟩
  exact ⟨s, hreach, hsent, (dispatch_bounded rfl hreach).2.1⟩

/-- A run that drains with a target of zero goes beyond the target, the slots and the worker, which
make three together: four tasks are counted, and all four arrive. -/
theorem zero_target_overshoots : ∃ s t report,
    PipelineConfig.defect? { workerCount := 1, want := 0 } = none ∧
    Reachable { workerCount := 1, want := 0 } (List.replicate 5 ⟨.instant, 0⟩) s ∧
    0 + 1 + 1 + 1 < s.counters.sent ∧
    Reachable { workerCount := 1, want := 0 } (List.replicate 5 ⟨.instant, 0⟩) t ∧
    t.runReport? = some report ∧ min 5 (0 + 1 + 1 + 1) < report.packets.length := by
  let work (ticket : Nat) := [Move.act (.execution ticket), .act (.worker 0), .act (.worker 0)]
  let collect := List.replicate 3 (Move.act .collector)
  let rest := [.act .collector, .act .collector, .act .dispatcher] ++ collect ++ work 2 ++ collect ++
    [.act (.worker 0)] ++ work 3 ++ collect ++ [.act (.worker 0)] ++ collect ++
    List.replicate 4 (.act .supervisor)
  have hrun : ∃ s t report, (ofRun { workerCount := 1, want := 0 }
      (List.replicate 5 ⟨.instant, 0⟩)).follow saturation = some s ∧ s.counters.sent = 4 ∧
      s.follow rest = some t ∧ t.runReport? = some report ∧ report.packets.length = 4 :=
    ⟨_, _, _, rfl, rfl, rfl, rfl, rfl⟩
  obtain ⟨s, t, report, hfirst, hsent, hrest, hreport, hlength⟩ := hrun
  have hs : Reachable { workerCount := 1, want := 0 } (List.replicate 5 ⟨.instant, 0⟩) s :=
    ⟨saturation, hfirst⟩
  exact ⟨s, t, report, rfl, hs, by omega, hs.follow hrest, hreport, by omega⟩

end Pipeline

end Fanout
