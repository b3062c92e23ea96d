import Mathlib.Data.List.Perm.Basic
import Fanout.Proofs.Pipeline.Plan

/-!
How the stages of a run hang together: the ends of both channels that are alive, the slot that the
dispatcher holds and the state of the signal follow from where the stages are (`Wired`). In
particular the signal is closed exactly when the collector closed it (`Wired.isShutdown`).
-/

namespace Fanout

def DispatcherPoint.holdsSlot : DispatcherPoint → Bool
  | .counting .. | .committing _ => true
  | _ => false

/-- The collector has closed the signal. -/
def CollectorPoint.hasClosed : CollectorPoint → Bool
  | .pausing .. | .reporting _ | .finished _ | .crashed .. => true
  | _ => false

def CollectorPoint.isOver : CollectorPoint → Bool
  | .finished _ | .crashed .. => true
  | _ => false

-- Equations and not unfoldings, so that the ends that may be crashes stay as they are.
attribute [simp] DispatcherPoint.isOver.eq_1 DispatcherPoint.isOver.eq_2 DispatcherPoint.isOver.eq_3
  DispatcherPoint.holdsSlot.eq_1 DispatcherPoint.holdsSlot.eq_2 DispatcherPoint.holdsSlot.eq_3
  WorkerPoint.isOver.eq_1 WorkerPoint.isOver.eq_2 WorkerPoint.isOver.eq_3
  CollectorPoint.hasClosed.eq_1 CollectorPoint.hasClosed.eq_2 CollectorPoint.hasClosed.eq_3
  CollectorPoint.hasClosed.eq_4 CollectorPoint.hasClosed.eq_5 CollectorPoint.isOver.eq_1
  CollectorPoint.isOver.eq_2 CollectorPoint.isOver.eq_3

/-- What holds of both ways to end holds of an end that depends on what is dropped. -/
theorem DispatcherPoint.apply_afterDropping {β : Type} (f : DispatcherPoint → β) {b : β}
    (hended : f .ended = b) (hcrashed : ∀ message, f (.crashed message) = b)
    (lost : List (Packet Job)) : f (.afterDropping lost) = b := by
  unfold afterDropping
  split
  · exact hended
  · exact hcrashed _

theorem WorkerPoint.apply_afterDropping {β : Type} (f : WorkerPoint → β) {b : β}
    (hexited : f .exited = b) (hcrashed : ∀ message, f (.crashed message) = b)
    (lost : List (Packet Job)) : f (.afterDropping lost) = b := by
  unfold afterDropping
  split
  · exact hexited
  · exact hcrashed _

theorem CollectorPoint.apply_afterDropping {β : Type} (f : CollectorPoint → β) {exit : CollectorExit}
    {b : β} (hfinished : f (.finished exit) = b) (hcrashed : ∀ message, f (.crashed exit message) = b)
    (lost : List (Packet Job)) : f (.afterDropping exit lost) = b := by
  unfold afterDropping
  split
  · exact hfinished
  · exact hcrashed _

@[simp] theorem DispatcherPoint.isOver_afterDropping (lost : List (Packet Job)) :
    (DispatcherPoint.afterDropping lost).isOver = true :=
  apply_afterDropping isOver rfl (fun _ => rfl) lost

@[simp] theorem DispatcherPoint.holdsSlot_afterDropping (lost : List (Packet Job)) :
    (DispatcherPoint.afterDropping lost).holdsSlot = false :=
  apply_afterDropping holdsSlot rfl (fun _ => rfl) lost

@[simp] theorem WorkerPoint.isOver_afterDropping (lost : List (Packet Job)) :
    (WorkerPoint.afterDropping lost).isOver = true :=
  apply_afterDropping isOver rfl (fun _ => rfl) lost

@[simp] theorem CollectorPoint.isOver_afterDropping (exit : CollectorExit) (lost : List (Packet Job)) :
    (CollectorPoint.afterDropping exit lost).isOver = true :=
  apply_afterDropping isOver rfl (fun _ => rfl) lost

@[simp] theorem CollectorPoint.hasClosed_afterDropping (exit : CollectorExit)
    (lost : List (Packet Job)) : (CollectorPoint.afterDropping exit lost).hasClosed = true :=
  apply_afterDropping hasClosed rfl (fun _ => rfl) lost

/-! ### A pool in which one worker moves on -/

section Pool

variable {workers : List Worker} {k : Nat} {w : Worker}

/-- How many workers are at such a point. -/
def countAt (present : WorkerPoint → Bool) (workers : List Worker) : Nat :=
  workers.countP fun w => present w.point

theorem set_worker_perm (hworker : workers[k]? = some w) (v : Worker) :
    (w :: workers.set k v).Perm (v :: workers) := by
  have hperm := List.getD_set_perm_cons workers k v
  rwa [hworker] at hperm

theorem countAt_set (hworker : workers[k]? = some w) (present : WorkerPoint → Bool)
    (point : WorkerPoint) :
    countAt present (workers.set k { w with point }) + (present w.point).toNat =
      countAt present workers + (present point).toNat := by
  have hcount := (set_worker_perm hworker { w with point }).countP_eq fun w => present w.point
  simp only [List.countP_cons] at hcount
  cases hw : present w.point <;> cases hp : present point <;> simp_all [countAt]

theorem countAt_set_same (hworker : workers[k]? = some w) {present : WorkerPoint → Bool}
    {point : WorkerPoint} (h : present point = present w.point) :
    countAt present (workers.set k { w with point }) = countAt present workers := by
  have hcount := countAt_set hworker present point
  rw [h] at hcount
  omega

theorem countAt_set_lost (hworker : workers[k]? = some w) {present : WorkerPoint → Bool}
    {point : WorkerPoint} (hbefore : present w.point = true) (hafter : present point = false) :
    countAt present (workers.set k { w with point }) + 1 = countAt present workers := by
  have hcount := countAt_set hworker present point
  rw [hbefore, hafter] at hcount
  exact hcount

end Pool

def WorkerPoint.isLive (point : WorkerPoint) : Bool :=
  !point.isOver

namespace Pipeline

/-- How many workers have not ended. -/
def liveWorkers (s : Pipeline) : Nat :=
  countAt WorkerPoint.isLive s.workers

structure Wired (s : Pipeline) : Prop where
  handoffSenders : s.handoff.senders = (!s.dispatcher.point.isOver).toNat
  handoffReceivers : s.handoff.receivers = s.liveWorkers
  handoffReserved : s.handoff.reserved = s.dispatcher.point.holdsSlot.toNat
  outboundSenders : s.outbound.senders = s.liveWorkers
  outboundReceivers : s.outbound.receivers = (!s.collector.point.isOver).toNat
  outboundReserved : s.outbound.reserved = 0
  requested : s.signal.requested = s.collector.point.hasClosed
  transmitters : s.signal.transmitters = (!s.collector.point.isOver).toNat

theorem Wired.isShutdown {s : Pipeline} (hs : Wired s) :
    s.signal.isShutdown = s.collector.point.hasClosed := by
  rw [Signal.isShutdown, hs.requested, hs.transmitters]
  cases s.collector.point <;> rfl

variable {s t : Pipeline}

theorem liveWorkers_congr (h : t.workers = s.workers) : t.liveWorkers = s.liveWorkers := by
  rw [liveWorkers, h, liveWorkers]

theorem Wired.dispatcherStep (hs : Wired s) (h : DispatcherStep s t) : Wired t := by
  have hsenders := hs.handoffSenders
  have hreserved := hs.handoffReserved
  obtain ⟨-, hsignal, houtbound, hworkers, hcollector, -, -, -, hreceivers, -⟩ := h.frame
  refine ⟨?_, ?_, ?_, ?_, ?_, ?_, ?_, ?_⟩
  · cases h <;> simp_all [endDispatcher]
  · rw [hreceivers, hs.handoffReceivers, liveWorkers_congr hworkers]
  · cases h <;> simp_all [endDispatcher]
  · rw [houtbound, hs.outboundSenders, liveWorkers_congr hworkers]
  · rw [houtbound, hs.outboundReceivers, hcollector]
  · rw [houtbound, hs.outboundReserved]
  · rw [hsignal, hs.requested, hcollector]
  · rw [hsignal, hs.transmitters, hcollector]

theorem WorkerStep.isLive {k : Nat} {w : Worker} (h : WorkerStep s k w t) :
    w.point.isLive = true := by
  cases h <;> simp [WorkerPoint.isLive, *]

/-- A worker keeps its ends of both channels or ends and gives both back. -/
theorem WorkerStep.live {k : Nat} {w : Worker} (hworker : s.workers[k]? = some w)
    (h : WorkerStep s k w t) :
    (t.liveWorkers = s.liveWorkers ∧ t.handoff.receivers = s.handoff.receivers ∧
      t.outbound.senders = s.outbound.senders) ∨
    (t.liveWorkers + 1 = s.liveWorkers ∧ t.handoff.receivers = s.handoff.receivers - 1 ∧
      t.outbound.senders = s.outbound.senders - 1) := by
  have hlive := h.isLive
  cases h with
  | took | heardReturn | heardPanic | expired | countedTimeout | countedPanic | forwarded =>
      left
      refine ⟨countAt_set_same hworker ?_, ?_, ?_⟩ <;> simp [beginWork, WorkerPoint.isLive, *]
  | leftCrashing | droppedCrashing | unheardCrashing | dismissed | drained | left | dropped | unheard =>
      right
      refine ⟨countAt_set_lost hworker hlive ?_, ?_, ?_⟩ <;>
        simp [endWorker, crashWorker, WorkerPoint.isLive]

theorem Wired.workerStep {k : Nat} {w : Worker} (hs : Wired s) (hworker : s.workers[k]? = some w)
    (h : WorkerStep s k w t) : Wired t := by
  have hreceivers := hs.handoffReceivers
  have hsenders := hs.outboundSenders
  have hlive := h.live hworker
  obtain ⟨-, hsignal, hdispatcher, hcollector, -, hhandoff, hreserved, houtbound, houtreserved, -⟩ :=
    h.frame
  refine ⟨?_, by omega, ?_, by omega, ?_, ?_, ?_, ?_⟩
  · rw [hhandoff, hs.handoffSenders, hdispatcher]
  · rw [hreserved, hs.handoffReserved, hdispatcher]
  · rw [houtbound, hs.outboundReceivers, hcollector]
  · rw [houtreserved, hs.outboundReserved]
  · rw [hsignal, hs.requested, hcollector]
  · rw [hsignal, hs.transmitters, hcollector]

theorem Wired.collectorStep (hs : Wired s) (h : CollectorStep s t) : Wired t := by
  have hreceivers := hs.outboundReceivers
  have hrequested := hs.requested
  have htransmitters := hs.transmitters
  obtain ⟨-, hhandoff, hdispatcher, hworkers, -, -, -, hsenders, hreserved, -⟩ := h.frame
  refine ⟨?_, ?_, ?_, ?_, ?_, ?_, ?_, ?_⟩
  · rw [hhandoff, hs.handoffSenders, hdispatcher]
  · rw [hhandoff, hs.handoffReceivers, liveWorkers_congr hworkers]
  · rw [hhandoff, hs.handoffReserved, hdispatcher]
  · rw [hsenders, hs.outboundSenders, liveWorkers_congr hworkers]
  · cases h with
    | reached seen nextTick | continued seen nextTick =>
        obtain ⟨log, heq, -⟩ := stopWhenEnough_eq seen s
        simp_all
    | _ => simp_all [accept, endCollector]
  · rw [hreserved, hs.outboundReserved]
  · cases h with
    | reached seen nextTick | continued seen nextTick =>
        obtain ⟨log, heq, -⟩ := stopWhenEnough_eq seen s
        simp_all
    | _ => simp_all [accept, endCollector, Signal.shutdown, Signal.dropTransmitter]
  · cases h with
    | reached seen nextTick | continued seen nextTick =>
        obtain ⟨log, heq, -⟩ := stopWhenEnough_eq seen s
        simp_all
    | _ => simp_all [accept, endCollector, Signal.shutdown, Signal.dropTransmitter]

theorem Wired.supervisorStep (hs : Wired s) (h : SupervisorStep s t) : Wired t := by
  obtain ⟨supervisor, exits, metrics, log, rfl, -, -⟩ := supervisorStep_frame h
  exact { hs with }

theorem Wired.executionStep {ticket : Nat} (hs : Wired s) (h : ExecutionStep s ticket t) :
    Wired t := by
  cases h with
  | delivered e k w task startedAt hfind hend hworker hpoint =>
      have hlive : liveWorkers ({ s with
          executions := s.executions.eraseP (·.ticket == ticket) }.setWorker k w
            (.executing ticket task startedAt (outcomeOf e))) = s.liveWorkers :=
        countAt_set_same hworker (by simp [WorkerPoint.isLive, hpoint])
      exact { hs with
        handoffReceivers := hs.handoffReceivers.trans hlive.symm
        outboundSenders := hs.outboundSenders.trans hlive.symm }
  | late => exact { hs with }

theorem wired_of_move {m : Move} (hs : Wired s) (h : s.move m = some t) : Wired t := by
  cases moveStep_of_move h with
  | dispatcher h => exact hs.dispatcherStep h
  | worker k w hworker h => exact hs.workerStep hworker h
  | collector h => exact hs.collectorStep h
  | supervisor h => exact hs.supervisorStep h
  | execution ticket h => exact hs.executionStep h
  | advanced | released => exact { hs with }

theorem wired_ofRun (config : PipelineConfig) (jobs : List Job) : Wired (ofRun config jobs) := by
  have hlive : (ofRun config jobs).liveWorkers = config.workerCount := by
    simp [liveWorkers, countAt, ofRun, WorkerPoint.isLive, List.countP_map, Function.comp_def]
  exact ⟨rfl, hlive.symm, rfl, hlive.symm, rfl, rfl, rfl, rfl⟩

theorem wired_of_reachable {config : PipelineConfig} {jobs : List Job}
    (hs : Reachable config jobs s) : Wired s :=
  hs.induction (wired_ofRun config jobs) fun _ _ _ _ ih h => wired_of_move ih h

end Pipeline

end Fanout
