import Fanout.Proofs.Pipeline.Supply

/-!
While the signal is open, a run goes on in good order (`Orderly`): the dispatcher ends only when the
loading was stopped or the supply is exhausted, a worker ends only after the dispatcher with nothing
left to hand over, and nothing that was counted is dropped.
-/

namespace Fanout

namespace Pipeline

structure Orderly (s : Pipeline) : Prop where
  ended : s.dispatcher.point.isOver = true →
    s.counters.supplyExhausted = true ∨ s.counters.cursor = .stopped
  left : ∀ w ∈ s.workers, w.point.isOver = true →
    s.dispatcher.point.isOver = true ∧ s.handoff.buffer = []
  discarded : s.discarded = []

variable {s t : Pipeline} {total : Nat}

theorem isOver_of_liveWorkers (h : s.liveWorkers = 0) : ∀ w ∈ s.workers, w.point.isOver = true := by
  intro w hw
  have hdead := List.countP_eq_zero.mp h w hw
  simpa [WorkerPoint.isLive] using hdead

theorem DispatcherStep.isOver (h : DispatcherStep s t) : s.dispatcher.point.isOver = false := by
  cases h <;> simp [*]

/-- A dispatcher that goes on has a worker to hand over to. -/
theorem Orderly.receivers (hs : Orderly s) (hwired : Wired s) (hworkers : s.workers ≠ [])
    (hover : s.dispatcher.point.isOver = false) : s.handoff.receivers ≠ 0 := by
  intro hnone
  obtain ⟨w, hw⟩ := List.exists_mem_of_ne_nil _ hworkers
  rw [hwired.handoffReceivers] at hnone
  have hleft := (hs.left w hw (isOver_of_liveWorkers hnone w hw)).1
  rw [hover] at hleft
  cases hleft

/-- Nobody drops the last receiver of the outbound channel before the signal is closed. -/
theorem Wired.outbound_open (hs : Wired s) (hopen : s.signal.isShutdown = false) :
    s.outbound.receivers ≠ 0 := by
  rw [hs.isShutdown] at hopen
  rw [hs.outboundReceivers]
  cases hpoint : s.collector.point <;> simp_all

theorem Orderly.dispatcherStep (hs : Orderly s) (hwired : Wired s) (hpaced : Paced total s)
    (hworkers : s.workers ≠ []) (hopen : s.signal.isShutdown = false) (h : DispatcherStep s t) :
    Orderly t := by
  have hover := h.isOver
  have hreceivers := hs.receivers hwired hworkers hover
  refine ⟨?_, ?_, ?_⟩
  · intro hended
    cases h with
    | stopped hpoint hcursor => exact .inr hcursor
    | exhausted => exact .inl rfl
    | unsupplied i hpoint hcursor htotal hremaining =>
        have hnone : s.undispatched = [] := by
          simp [undispatched, hpoint, hremaining, hpaced.withheld hover]
        rw [hpaced.undispatched, List.drop_eq_nil_iff, List.length_range] at hnone
        rcases hpaced.cursor with h | h
        · rw [hcursor] at h
          cases h
          have hsize := hpaced.size
          omega
        · exact .inr h
    | shutdown i p hpoint hsignal => rw [hopen] at hsignal; cases hsignal
    | closed i p hpoint hsignal hnone => exact absurd hnone hreceivers
    | refused i p hpoint hcursor =>
        right
        rcases hpaced.cursor with h | h
        · rw [← hpaced.index i p (.inr hpoint)] at h
          exact absurd h hcursor
        · exact h
    | drawn | reserved | counted | committed => simp at hended
  · intro w hw hdead
    rw [h.frame.workers] at hw
    have hleft := (hs.left w hw hdead).1
    rw [hover] at hleft
    cases hleft
  · have hkept := hs.discarded
    cases h <;> simp [endDispatcher, hkept, hreceivers]

/-- While the signal is open a worker goes on, or it ends because nothing more will be handed over. -/
theorem WorkerStep.goes_on_or_drains {k : Nat} {w : Worker}
    (hopen : s.signal.isShutdown = false) (houtbound : s.outbound.receivers ≠ 0)
    (h : WorkerStep s k w t) :
    t.discarded = s.discarded ∧ (s.handoff.buffer = [] → t.handoff.buffer = []) ∧
    ∃ point, t.workers = s.workers.set k { w with point } ∧
      (point.isOver = true → s.handoff.senders = 0 ∧ t.handoff.buffer = []) := by
  cases h with
  | took p rest hpoint hsignal hbuffer =>
      refine ⟨rfl, fun hnone => ?_, _, rfl, by simp⟩
      rw [hbuffer] at hnone
      cases hnone
  | heardReturn | heardPanic | expired | countedTimeout | countedPanic =>
      exact ⟨by simp, by simp, _, rfl, by simp⟩
  | forwarded => exact ⟨by simp, by simp, _, rfl, by simp⟩
  | drained hpoint hsignal hbuffer hsenders =>
      refine ⟨?_, fun _ => ?_, _, rfl, fun _ => ⟨hsenders, ?_⟩⟩ <;>
        simp [endWorker, Channel.lostWithReceiver, hbuffer]
  | dismissed hpoint hsignal | left _ _ _ _ hpoint hsignal | leftCrashing _ _ _ _ _ hpoint hsignal
  | dropped _ hpoint hsignal | droppedCrashing _ _ hpoint hsignal =>
      rw [hopen] at hsignal
      cases hsignal
  | unheard _ hpoint hsignal hreceivers | unheardCrashing _ _ hpoint hsignal hreceivers =>
      exact absurd hreceivers houtbound

theorem Orderly.workerStep {k : Nat} {w : Worker} (hs : Orderly s) (hwired : Wired s)
    (hopen : s.signal.isShutdown = false) (h : WorkerStep s k w t) : Orderly t := by
  have hframe := h.frame
  obtain ⟨hdiscarded, hbuffer, point, hworkers, hends⟩ :=
    h.goes_on_or_drains hopen (hwired.outbound_open hopen)
  refine ⟨?_, ?_, hdiscarded.trans hs.discarded⟩
  · rw [hframe.dispatcher, hframe.supplyExhausted, hframe.cursor]
    exact hs.ended
  · intro v hv hdead
    rw [hframe.dispatcher]
    rw [hworkers] at hv
    rcases List.mem_or_eq_of_mem_set hv with hold | rfl
    · have hleft := hs.left v hold hdead
      exact ⟨hleft.1, hbuffer hleft.2⟩
    · obtain ⟨hsenders, hempty⟩ := hends hdead
      rw [hwired.handoffSenders] at hsenders
      refine ⟨?_, hempty⟩
      cases hover : s.dispatcher.point.isOver <;> simp_all

theorem Orderly.collectorStep (hs : Orderly s) (hwired : Wired s)
    (hopen : s.signal.isShutdown = false) (h : CollectorStep s t) : Orderly t := by
  have hframe := h.frame
  refine ⟨?_, ?_, ?_⟩
  · intro hover
    rw [hframe.dispatcher] at hover
    exact (hs.ended hover).imp h.onward.exhausted h.onward.stopped
  · rw [hframe.workers, hframe.dispatcher, hframe.handoff]
    exact hs.left
  · cases h with
    | reported exit hpoint =>
        rw [hwired.isShutdown, hpoint] at hopen
        cases hopen
    | reached seen nextTick | continued seen nextTick =>
        obtain ⟨log, heq, -⟩ := stopWhenEnough_eq seen s
        simp [heq, hs.discarded]
    | _ => simp [accept, hs.discarded]

theorem Orderly.executionStep {ticket : Nat} (hs : Orderly s) (h : ExecutionStep s ticket t) :
    Orderly t := by
  cases h with
  | delivered e k w task startedAt =>
      refine ⟨hs.ended, ?_, hs.discarded⟩
      intro v hv hdead
      rcases List.mem_or_eq_of_mem_set hv with hold | rfl
      · exact hs.left v hold hdead
      · cases hdead
  | late => exact ⟨hs.ended, hs.left, hs.discarded⟩

theorem orderly_of_move {m : Move} (hs : Orderly s) (hwired : Wired s) (hpaced : Paced total s)
    (hworkers : s.workers ≠ []) (hopen : s.signal.isShutdown = false) (h : s.move m = some t) :
    Orderly t := by
  cases moveStep_of_move h with
  | dispatcher h => exact hs.dispatcherStep hwired hpaced hworkers hopen h
  | worker k w hworker h => exact hs.workerStep hwired hopen h
  | collector h => exact hs.collectorStep hwired hopen h
  | supervisor h =>
      obtain ⟨supervisor, exits, metrics, log, rfl, -, -⟩ := supervisorStep_frame h
      exact ⟨hs.ended, hs.left, hs.discarded⟩
  | execution ticket h => exact hs.executionStep h
  | advanced | released => exact ⟨hs.ended, hs.left, hs.discarded⟩

theorem orderly_of_reachable {config : PipelineConfig} {jobs : List Job}
    (hs : Reachable config jobs s) (hcount : config.workerCount ≠ 0)
    (hopen : s.signal.isShutdown = false) : Orderly s := by
  revert hopen
  refine hs.induction (fun _ => ⟨?_, ?_, rfl⟩) ?_
  · intro hended
    cases hended
  · intro w hw hdead
    obtain ⟨id, -, rfl⟩ := List.mem_map.mp hw
    cases hdead
  · intro s m t hreach ih hmove hopen
    have hbefore : s.signal.isShutdown = false := by
      cases hshut : s.signal.isShutdown with
      | false => rfl
      | true => rw [(onward_of_move hmove).shutdown hshut] at hopen; cases hopen
    exact orderly_of_move (ih hbefore) (wired_of_reachable hreach) (paced_of_reachable hreach)
      (workers_ne_nil hreach hcount) hbefore hmove

end Pipeline

end Fanout
