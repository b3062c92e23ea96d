import Fanout.Proofs.Pipeline.Wiring

/-!
Tickets tie a worker to the work that it waits for. A ticket is given out once, so a worker hears the
end of its own work and of no other (`Linked`): whatever it hears concerns the task that it took.
-/

namespace Fanout

namespace Pipeline

/-- What a worker that waits for a work can rely on. -/
structure Waits (s : Pipeline) (ticket task startedAt : Nat) (outcome : Outcome) : Prop where
  issued : ticket < s.nextTicket
  begun : startedAt ≤ s.now
  returned : ∀ p, outcome = .returned p → p.task = task
  packet : ∀ e ∈ s.executions, e.ticket = ticket → e.packet.task = task

/-- Every ticket was given out before the next one, and every worker that waits for a work can rely
on it. -/
structure Linked (s : Pipeline) : Prop where
  issued : ∀ e ∈ s.executions, e.ticket < s.nextTicket
  waits : ∀ w ∈ s.workers, ∀ ticket task startedAt outcome,
    w.point = .executing ticket task startedAt outcome → Waits s ticket task startedAt outcome

variable {s t : Pipeline}

theorem isOver_ne_executing {point : WorkerPoint} (h : point.isOver = true)
    {ticket task startedAt : Nat} {outcome : Outcome} :
    point ≠ .executing ticket task startedAt outcome := by
  intro heq
  rw [heq] at h
  cases h

/-- Nothing is begun, and workers move on to points that they may rely on. -/
theorem Linked.of_frame (hs : Linked s) (hnow : s.now ≤ t.now)
    (hticket : t.nextTicket = s.nextTicket) (hexecutions : ∀ e ∈ t.executions, e ∈ s.executions)
    (hworkers : ∀ w ∈ t.workers, w ∈ s.workers ∨ ∀ ticket task startedAt outcome,
      w.point = .executing ticket task startedAt outcome →
        Waits s ticket task startedAt outcome) : Linked t where
  issued e he := by
    rw [hticket]
    exact hs.issued e (hexecutions e he)
  waits w hw ticket task startedAt outcome hpoint := by
    have hwaits : Waits s ticket task startedAt outcome := by
      rcases hworkers w hw with hold | hnew
      · exact hs.waits w hold ticket task startedAt outcome hpoint
      · exact hnew ticket task startedAt outcome hpoint
    exact {
      issued := by rw [hticket]; exact hwaits.issued
      begun := Nat.le_trans hwaits.begun hnow
      returned := hwaits.returned
      packet := fun e he => hwaits.packet e (hexecutions e he) }

/-- A worker that begins a work gets a ticket that nobody has seen. -/
theorem Linked.beginWork {k : Nat} {w : Worker} (hs : Linked s) (p : Packet Job) :
    Linked (s.beginWork k w p) where
  issued e he := by
    rcases List.mem_append.mp he with hold | hnew
    · exact Nat.lt_succ_of_lt (hs.issued e hold)
    · rw [List.mem_singleton.mp hnew]
      exact Nat.lt_succ_self _
  waits v hv ticket task startedAt outcome hpoint := by
    rcases List.mem_or_eq_of_mem_set hv with hold | rfl
    · have hwaits := hs.waits v hold ticket task startedAt outcome hpoint
      refine ⟨Nat.lt_succ_of_lt hwaits.issued, hwaits.begun, hwaits.returned, ?_⟩
      intro e he heq
      rcases List.mem_append.mp he with hbefore | hnew
      · exact hwaits.packet e hbefore heq
      · rw [List.mem_singleton.mp hnew] at heq
        exact absurd hwaits.issued (heq ▸ Nat.lt_irrefl _)
    · cases hpoint
      refine ⟨Nat.lt_succ_self _, Nat.le_refl _, ?_, ?_⟩
      · intro q hreturned
        cases hreturned
      · intro e he heq
        rcases List.mem_append.mp he with hbefore | hnew
        · exact absurd (hs.issued e hbefore) (heq ▸ Nat.lt_irrefl _)
        · rw [List.mem_singleton.mp hnew]
          rfl

/-- A worker that begins no work leaves the works alone and waits for none afterwards. -/
theorem WorkerStep.begins_or_rests {k : Nat} {w : Worker} (h : WorkerStep s k w t) :
    (∃ p rest, s.handoff.buffer = p :: rest ∧
      t = { s with handoff := { s.handoff with buffer := rest } }.beginWork k w p) ∨
    (t.executions = s.executions ∧ t.nextTicket = s.nextTicket ∧
      t.handoff.buffer.length ≤ s.handoff.buffer.length ∧
      ∃ point, t.workers = s.workers.set k { w with point } ∧
        ∀ ticket task startedAt outcome, point ≠ .executing ticket task startedAt outcome) := by
  cases h with
  | took p rest hpoint hsignal hbuffer => exact .inl ⟨p, rest, hbuffer, rfl⟩
  | heardReturn | heardPanic | expired | countedTimeout | countedPanic | forwarded =>
      refine .inr ⟨by simp, by simp, by simp, _, rfl, fun _ _ _ _ heq => by cases heq⟩
  | leftCrashing | droppedCrashing | unheardCrashing | dismissed | drained | left | dropped
  | unheard =>
      refine .inr ⟨?_, ?_, ?_, _, rfl, fun _ _ _ _ => isOver_ne_executing (by simp)⟩
      · simp [endWorker, crashWorker]
      · simp [endWorker, crashWorker]
      · exact Channel.length_dropReceiver_le s.handoff

/-- A worker that waits for a work after the step did so before, or has just begun it. -/
theorem WorkerStep.executing_cases {k : Nat} {w v : Worker} (h : WorkerStep s k w t)
    (hv : v ∈ t.workers) {ticket task startedAt : Nat} {outcome : Outcome}
    (hpoint : v.point = .executing ticket task startedAt outcome) :
    v ∈ s.workers ∨ ticket = s.nextTicket ∧ startedAt = s.now ∧ outcome = .running := by
  rcases h.begins_or_rests with ⟨p, rest, -, rfl⟩ | ⟨-, -, -, point, hworkers, hrests⟩
  · rcases List.mem_or_eq_of_mem_set hv with hold | rfl
    · exact .inl hold
    · cases hpoint
      exact .inr ⟨rfl, rfl, rfl⟩
  · rw [hworkers] at hv
    rcases List.mem_or_eq_of_mem_set hv with hold | rfl
    · exact .inl hold
    · exact absurd hpoint (hrests _ _ _ _)

theorem Linked.workerStep {k : Nat} {w : Worker} (hs : Linked s) (h : WorkerStep s k w t) :
    Linked t := by
  rcases h.begins_or_rests with ⟨p, rest, -, rfl⟩ | ⟨hexecutions, hticket, -, point, hworkers, hrests⟩
  · have hs' : Linked { s with handoff := { s.handoff with buffer := rest } } :=
      hs.of_frame (Nat.le_refl _) rfl (fun _ => id) fun _ hw => .inl hw
    exact hs'.beginWork p
  · refine hs.of_frame (Nat.le_of_eq h.frame.now.symm) hticket (fun _ he => hexecutions ▸ he) ?_
    intro v hv
    rw [hworkers] at hv
    refine (List.mem_or_eq_of_mem_set hv).imp_right ?_
    rintro rfl ticket task startedAt outcome hpoint
    exact absurd hpoint (hrests _ _ _ _)

theorem outcomeOf_returned {e : Execution} {p : Packet Job} (h : outcomeOf e = .returned p) :
    p.task = e.packet.task := by
  unfold outcomeOf at h
  split at h
  · cases h
  · cases h
    rfl

/-- The work that is found under a ticket bears it. -/
theorem find?_ticket_eq_some {executions : List Execution} {ticket : Nat} {e : Execution}
    (h : executions.find? (·.ticket == ticket) = some e) : e ∈ executions ∧ e.ticket = ticket := by
  have hticket := List.find?_some h
  exact ⟨List.mem_of_find?_eq_some h, beq_iff_eq.mp hticket⟩

theorem Linked.executionStep {ticket : Nat} (hs : Linked s) (h : ExecutionStep s ticket t) :
    Linked t := by
  cases h with
  | delivered e k w task startedAt hfind hend hworker hpoint =>
      refine hs.of_frame (Nat.le_refl _) rfl (fun _ => List.mem_of_mem_eraseP) ?_
      intro v hv
      refine (List.mem_or_eq_of_mem_set hv).imp_right ?_
      rintro rfl _ _ _ _ hnew
      cases hnew
      have hwaits := hs.waits w (List.mem_of_getElem? hworker) _ _ _ _ hpoint
      refine ⟨hwaits.issued, hwaits.begun, ?_, hwaits.packet⟩
      intro p houtcome
      rw [outcomeOf_returned houtcome]
      obtain ⟨he, hticket⟩ := find?_ticket_eq_some hfind
      exact hwaits.packet e he hticket
  | late =>
      exact hs.of_frame (Nat.le_refl _) rfl (fun _ => List.mem_of_mem_eraseP) fun _ hw => .inl hw

theorem linked_of_move {m : Move} (hs : Linked s) (h : s.move m = some t) : Linked t := by
  cases moveStep_of_move h with
  | dispatcher h =>
      have hframe := h.frame
      exact hs.of_frame (Nat.le_of_eq hframe.now.symm) hframe.nextTicket (fun _ he => hframe.executions ▸ he)
        fun _ hw => .inl (hframe.workers ▸ hw)
  | worker k w hworker h => exact hs.workerStep h
  | collector h =>
      have hframe := h.frame
      exact hs.of_frame (Nat.le_of_eq hframe.now.symm) hframe.nextTicket (fun _ he => hframe.executions ▸ he)
        fun _ hw => .inl (hframe.workers ▸ hw)
  | supervisor h =>
      obtain ⟨supervisor, exits, metrics, log, rfl, -, -⟩ := supervisorStep_frame h
      exact hs.of_frame (Nat.le_refl _) rfl (fun _ => id) fun _ hw => .inl hw
  | execution ticket h => exact hs.executionStep h
  | advanced ms => exact hs.of_frame (Nat.le_add_right _ _) rfl (fun _ => id) fun _ hw => .inl hw
  | released => exact hs.of_frame (Nat.le_refl _) rfl (fun _ => id) fun _ hw => .inl hw

theorem linked_of_reachable {config : PipelineConfig} {jobs : List Job}
    (hs : Reachable config jobs s) : Linked s := by
  refine hs.induction ⟨?_, ?_⟩ fun _ _ _ _ ih h => linked_of_move ih h
  · intro e he
    cases he
  · intro w hw ticket task startedAt outcome hpoint
    obtain ⟨id, -, rfl⟩ := List.mem_map.mp hw
    cases hpoint

end Pipeline

end Fanout
