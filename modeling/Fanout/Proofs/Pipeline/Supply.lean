import Fanout.Proofs.Pipeline.Conservation

/-!
The dispatcher and the shared counters go through the tasks in step (`Paced`): tasks are counted in
the order of their numbers, the ones that no dispatch was counted for are the last ones, and the
supply counts as exhausted only when the dispatcher has ended and nothing is left. Stopping,
exhaustion and shutdown are never taken back (`Onward`).
-/

namespace Fanout

namespace Pipeline

variable {s t : Pipeline} {total : Nat}

/-! ### What stays -/

/-- What no move takes back. -/
structure Onward (s t : Pipeline) : Prop where
  stopped : s.counters.cursor = .stopped → t.counters.cursor = .stopped
  exhausted : s.counters.supplyExhausted = true → t.counters.supplyExhausted = true
  ended : s.dispatcher.point.isOver = true → t.dispatcher.point.isOver = true
  received : s.counters.received ≤ t.counters.received
  shutdown : s.signal.isShutdown = true → t.signal.isShutdown = true

/-- The collector leaves the cursor alone or stops the loading. -/
theorem CollectorStep.cursor (h : CollectorStep s t) :
    t.counters.cursor = s.counters.cursor ∨ t.counters.cursor = .stopped := by
  cases h with
  | sated => exact .inr rfl
  | reached seen nextTick | continued seen nextTick =>
      obtain ⟨log, heq, -⟩ := stopWhenEnough_eq seen s
      simp only [heq, setCollector]
      split
      · exact .inr rfl
      · exact .inl rfl
  | _ => left; simp [accept, endCollector, Counters.recordReceived]

/-- The collector touches the signal when it closes it and when it gives its transmitter back. -/
theorem CollectorStep.signal (h : CollectorStep s t) :
    t.signal = s.signal ∨ t.signal = s.signal.shutdown.2 ∨ t.signal = s.signal.dropTransmitter := by
  cases h with
  | closedPausing | closed => exact .inr (.inl rfl)
  | reported => exact .inr (.inr rfl)
  | reached seen nextTick | continued seen nextTick =>
      obtain ⟨log, heq, -⟩ := stopWhenEnough_eq seen s
      simp [heq]
  | _ => left; simp [accept]

theorem isShutdown_shutdown (signal : Signal) : signal.shutdown.2.isShutdown = true := by
  simp [Signal.isShutdown, Signal.shutdown]

theorem isShutdown_dropTransmitter {signal : Signal} (h : signal.isShutdown = true) :
    signal.dropTransmitter.isShutdown = true := by
  simp only [Signal.isShutdown, Signal.dropTransmitter, Bool.or_eq_true, decide_eq_true_eq] at h ⊢
  rcases h with h | h <;> simp [h]

theorem DispatcherStep.onward (h : DispatcherStep s t) : Onward s t := by
  have hframe := h.frame
  refine ⟨?_, ?_, ?_, Nat.le_of_eq hframe.received.symm, ?_⟩
  · cases h <;> simp_all [endDispatcher, Counters.exhaust]
  · cases h <;> simp [endDispatcher, Counters.exhaust, Counters.countDispatch]
  · cases h <;> simp_all [endDispatcher]
  · rw [hframe.signal]
    exact id

theorem CollectorStep.onward (h : CollectorStep s t) : Onward s t := by
  have hframe := h.frame
  refine ⟨?_, ?_, ?_, ?_, ?_⟩
  · intro hstopped
    rcases h.cursor with heq | heq
    · rw [heq, hstopped]
    · exact heq
  · rw [hframe.supplyExhausted]
    exact id
  · rw [hframe.dispatcher]
    exact id
  · cases h with
    | reached seen nextTick | continued seen nextTick =>
        obtain ⟨log, heq, -⟩ := stopWhenEnough_eq seen s
        simp only [heq, setCollector]
        split <;> exact Nat.le_refl _
    | _ => simp [accept, endCollector, Counters.recordReceived, Counters.stopLoading]
  · rcases h.signal with heq | heq | heq <;> rw [heq]
    · exact id
    · exact fun _ => isShutdown_shutdown _
    · exact isShutdown_dropTransmitter

theorem WorkerStep.onward {k : Nat} {w : Worker} (h : WorkerStep s k w t) : Onward s t := by
  have hframe := h.frame
  refine ⟨?_, ?_, ?_, Nat.le_of_eq hframe.received.symm, ?_⟩
  · rw [hframe.cursor]
    exact id
  · rw [hframe.supplyExhausted]
    exact id
  · rw [hframe.dispatcher]
    exact id
  · rw [hframe.signal]
    exact id

theorem onward_of_move {m : Move} (h : s.move m = some t) : Onward s t := by
  cases moveStep_of_move h with
  | dispatcher h => exact h.onward
  | worker k w hworker h => exact h.onward
  | collector h => exact h.onward
  | supervisor h =>
      obtain ⟨supervisor, exits, metrics, log, rfl, -, -⟩ := supervisorStep_frame h
      exact ⟨id, id, id, Nat.le_refl _, id⟩
  | execution ticket h => cases h <;> exact ⟨id, id, id, Nat.le_refl _, id⟩
  | advanced | released => exact ⟨id, id, id, Nat.le_refl _, id⟩

/-! ### The dispatcher in step with the counters -/

structure Paced (total : Nat) (s : Pipeline) : Prop where
  size : s.dispatcher.total = total
  cursor : s.counters.cursor = .loading s.counters.dispatched ∨ s.counters.cursor = .stopped
  withheld : s.dispatcher.point.isOver = false → s.withheld = []
  undispatched : s.undispatched = (List.range total).drop s.counters.dispatched
  index : ∀ i p, s.dispatcher.point = .reserving i p ∨ s.dispatcher.point = .counting i p →
    i = s.counters.dispatched
  exhausted : s.counters.supplyExhausted = true →
    s.counters.dispatched = total ∧ s.dispatcher.point.isOver = true
  want : s.counters.want = if s.counters.supplyExhausted then 0 else s.collector.want

/-- Every task that was counted is a task. -/
theorem Ledger.dispatched_le (hs : Ledger total s) : s.counters.dispatched ≤ total := by
  have hsent := hs.sent
  rw [← hs.abandoned] at hsent
  exact Nat.le.intro hsent

/-- A dispatcher that ends hands what it has not counted over to the record. -/
theorem Paced.ended (hs : Paced total s) {held : List (Packet Job)}
    (hover : s.dispatcher.point.isOver = false)
    (hheld : s.dispatcher.point.uncounted = held.map (·.task)) :
    Paced total (s.endDispatcher held) where
  size := hs.size
  cursor := hs.cursor
  withheld h := by simp [endDispatcher] at h
  undispatched := by
    refine Eq.trans ?_ hs.undispatched
    simp [Pipeline.undispatched, endDispatcher, hs.withheld hover, hheld]
  index i p hpoint := by
    have hended : (s.endDispatcher held).dispatcher.point.isOver = true := by simp [endDispatcher]
    rcases hpoint with h | h <;> rw [h] at hended <;> cases hended
  exhausted h := ⟨(hs.exhausted h).1, by simp [endDispatcher]⟩
  want := hs.want

theorem Paced.exhaust (hs : Paced total s) (hover : s.dispatcher.point.isOver = true)
    (hall : s.counters.dispatched = total) :
    Paced total { s with counters := s.counters.exhaust } where
  size := hs.size
  cursor := hs.cursor
  withheld := hs.withheld
  undispatched := hs.undispatched
  index := hs.index
  exhausted _ := ⟨hall, hover⟩
  want := rfl

/-- A dispatcher that goes on without counting keeps what it had not counted. -/
theorem Paced.goes_on (hs : Paced total s) (hlive : s.dispatcher.point.isOver = false)
    (hsize : t.dispatcher.total = s.dispatcher.total) (hcounters : t.counters = s.counters)
    (hcollector : t.collector = s.collector) (hwithheld : t.withheld = s.withheld)
    (hundispatched : t.undispatched = s.undispatched)
    (hindex : ∀ i p, t.dispatcher.point = .reserving i p ∨ t.dispatcher.point = .counting i p →
      i = s.counters.dispatched) : Paced total t where
  size := hsize.trans hs.size
  cursor := by
    rw [hcounters]
    exact hs.cursor
  withheld _ := hwithheld.trans (hs.withheld hlive)
  undispatched := by
    rw [hundispatched, hcounters]
    exact hs.undispatched
  index := by
    rw [hcounters]
    exact hindex
  exhausted h := by
    rw [hcounters] at h
    have hended := (hs.exhausted h).2
    rw [hlive] at hended
    cases hended
  want := by
    rw [hcounters, hcollector]
    exact hs.want

theorem Paced.dispatcherStep (hs : Paced total s) (hledger : Ledger total s)
    (h : DispatcherStep s t) : Paced total t := by
  have hle := hledger.dispatched_le
  have hcursor : ∀ i, s.counters.cursor = .loading i → i = s.counters.dispatched := by
    intro i hi
    rcases hs.cursor with h | h <;> rw [hi] at h <;> cases h
    rfl
  cases h with
  | stopped hpoint =>
      have hs' : Paced total (s.record .loadingStopped) := { hs with }
      exact hs'.ended (by simp [hpoint]) (by simp [hpoint])
  | exhausted i hpoint hi htotal =>
      have hs' : Paced total (s.record (.inputExhausted s.dispatcher.total)) := { hs with }
      have hall : s.counters.dispatched = total := by
        have heq := hcursor i hi
        have hsize := hs.size
        omega
      have hended : Paced total ((s.record (.inputExhausted s.dispatcher.total)).endDispatcher []) :=
        hs'.ended (by simp [hpoint]) (by simp [hpoint])
      exact hended.exhaust (by simp [endDispatcher]) hall
  | unsupplied i hpoint => exact hs.ended (by simp [hpoint]) (by simp [hpoint])
  | shutdown i p hpoint =>
      have hs' : Paced total (s.record (.shutdownWhileReserving i)) := { hs with }
      exact hs'.ended (by simp [hpoint]) (by simp [hpoint])
  | closed i p hpoint =>
      have hs' : Paced total (s.record .handoffClosed) := { hs with }
      exact hs'.ended (by simp [hpoint]) (by simp [hpoint])
  | refused i p hpoint =>
      have hs' : Paced total ({ s with handoff := s.handoff.release }.record .loadingStopped) :=
        { hs with }
      exact hs'.ended (by simp [hpoint]) (by simp [hpoint])
  | drawn i p rest hpoint hi htotal hremaining =>
      refine hs.goes_on (by simp [hpoint]) rfl rfl rfl rfl ?_ ?_
      · simp [Pipeline.undispatched, hpoint, hremaining]
      · rintro j q (h | h) <;> cases h
        exact hcursor i hi
  | reserved i p hpoint =>
      refine hs.goes_on (by simp [hpoint]) rfl rfl rfl rfl ?_ ?_
      · simp [Pipeline.undispatched, hpoint]
      · rintro j q (h | h) <;> cases h
        exact hs.index i p (.inl hpoint)
  | committed p hpoint =>
      refine hs.goes_on (by simp [hpoint]) rfl rfl rfl rfl ?_ ?_
      · simp [Pipeline.undispatched, hpoint]
      · rintro j q (h | h) <;> cases h
  | counted i p hpoint hi =>
      have hindex := hs.index i p (.inr hpoint)
      have hdispatched : (s.counters.countDispatch i).dispatched = s.counters.dispatched + 1 := by
        simp only [Counters.countDispatch, Counters.dispatched]
        omega
      refine { hs with cursor := .inl ?_, withheld := fun _ => hs.withheld (by simp [hpoint]),
                       undispatched := ?_, index := ?_, exhausted := ?_ }
      · rw [hindex]
        exact congrArg Cursor.loading hdispatched.symm
      · have htail := congrArg List.tail hs.undispatched
        rw [List.tail_drop] at htail
        refine Eq.trans ?_ (htail.trans (congrArg (List.drop · _) hdispatched.symm))
        simp [Pipeline.undispatched, hpoint]
      · rintro j q (h | h) <;> cases h
      · intro hexhausted
        have hover := (hs.exhausted hexhausted).2
        rw [hpoint] at hover
        cases hover

/-- The dispatcher stands still, and the counters change without counting a dispatch. -/
theorem Paced.of_frame (hs : Paced total s) (hdispatcher : t.dispatcher = s.dispatcher)
    (hwithheld : t.withheld = s.withheld)
    (hdispatched : t.counters.dispatched = s.counters.dispatched)
    (hcursor : t.counters.cursor = s.counters.cursor ∨ t.counters.cursor = .stopped)
    (hexhausted : t.counters.supplyExhausted = s.counters.supplyExhausted)
    (hwant : t.counters.want = s.counters.want) (hcollector : t.collector.want = s.collector.want) :
    Paced total t where
  size := by rw [hdispatcher, hs.size]
  cursor := by
    rcases hcursor with h | h
    · rw [h, hdispatched]
      exact hs.cursor
    · exact .inr h
  withheld h := by
    rw [hdispatcher] at h
    rw [hwithheld, hs.withheld h]
  undispatched := by
    rw [Pipeline.undispatched, hdispatcher, hwithheld, hdispatched]
    exact hs.undispatched
  index i p h := by
    rw [hdispatcher] at h
    rw [hdispatched]
    exact hs.index i p h
  exhausted h := by
    rw [hexhausted] at h
    rw [hdispatched, hdispatcher]
    exact hs.exhausted h
  want := by rw [hwant, hs.want, hexhausted, hcollector]

/-- A worker that gives a task up does not take its dispatch back. -/
theorem WorkerStep.dispatched {k : Nat} {w : Worker} (hs : Ledger total s)
    (hworker : s.workers[k]? = some w) (h : WorkerStep s k w t) :
    t.counters.dispatched = s.counters.dispatched := by
  rcases h.counters with ⟨hcounters, -⟩ | ⟨task, hpoint, hcounters, -⟩
  · rw [hcounters]
  · have hlt := hs.received_lt_sent hworker hpoint
    simp only [hcounters, Counters.dispatched, Counters.recordAbandoned]
    omega

theorem CollectorStep.dispatched (h : CollectorStep s t) :
    t.counters.dispatched = s.counters.dispatched := by
  rw [Counters.dispatched, h.frame.sent, h.frame.abandoned, Counters.dispatched]

theorem paced_of_move {m : Move} (hs : Paced total s) (hledger : Ledger total s)
    (h : s.move m = some t) : Paced total t := by
  have hplan := congrArg Plan.want (plan_of_move h)
  cases moveStep_of_move h with
  | dispatcher h => exact hs.dispatcherStep hledger h
  | worker k w hworker h =>
      have hframe := h.frame
      exact hs.of_frame hframe.dispatcher hframe.withheld (h.dispatched hledger hworker)
        (.inl hframe.cursor) hframe.supplyExhausted hframe.want hplan
  | collector h =>
      have hframe := h.frame
      exact hs.of_frame hframe.dispatcher hframe.withheld h.dispatched h.cursor
        hframe.supplyExhausted hframe.want hplan
  | supervisor h =>
      obtain ⟨supervisor, exits, metrics, log, rfl, -, -⟩ := supervisorStep_frame h
      exact hs.of_frame rfl rfl rfl (.inl rfl) rfl rfl rfl
  | execution ticket h => cases h <;> exact hs.of_frame rfl rfl rfl (.inl rfl) rfl rfl rfl
  | advanced | released => exact hs.of_frame rfl rfl rfl (.inl rfl) rfl rfl rfl

theorem paced_of_reachable {config : PipelineConfig} {jobs : List Job}
    (hs : Reachable config jobs s) : Paced jobs.length s := by
  refine hs.induction ⟨rfl, .inl rfl, fun _ => rfl, ?_, ?_, ?_, rfl⟩
    fun _ _ _ hreach ih h => paced_of_move ih (ledger_of_reachable hreach) h
  · simp [undispatched, ofRun, map_task_enumerate, Counters.dispatched, Counters.new]
  · rintro i p (h | h) <;> cases h
  · intro hexhausted
    cases hexhausted

end Pipeline

end Fanout
