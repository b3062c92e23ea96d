import Mathlib.Data.List.Lattice
import Fanout.Proofs.Pipeline.Return
import Fanout.Proofs.Pipeline.Verdict

/-!
What a run reports. A graceful drain gives back every task that was counted and not given up, and it
ends short of its target only when nothing is left to dispatch.
-/

namespace Fanout

namespace Pipeline

variable {s t : Pipeline} {total : Nat} {config : PipelineConfig} {jobs : List Job}

/-- Nothing that was counted is under way, and nothing was dropped. -/
theorem Complete.nothing_left (hs : Complete s) (hledger : Ledger total s) :
    s.handedOff = [] ∧ s.held = [] ∧ s.outgoing = [] ∧ s.discarded = [] := by
  have hsent := hledger.sent_eq
  rw [hs.sent, hledger.received] at hsent
  refine ⟨?_, ?_, ?_, ?_⟩ <;> apply List.eq_nil_of_length_eq_zero <;> omega

/-- The results and the tasks that were given up are the tasks that were dispatched. -/
theorem Complete.perm (hs : Complete s) (hledger : Ledger total s) (hpaced : Paced total s) :
    (s.collected ++ s.abandonedTasks).Perm (List.range s.counters.dispatched) := by
  obtain ⟨hhanded, hheld, houtgoing, hdiscarded⟩ := hs.nothing_left hledger
  have hfirst : (List.range total).take s.counters.dispatched = List.range s.counters.dispatched := by
    rw [List.take_range, Nat.min_eq_left hledger.dispatched_le]
  rw [List.perm_iff_count]
  intro i
  have htally := hledger.tally fun j => if j = i then 1 else 0
  simp only [Pipeline.tally, weigh_indicator, hhanded, hheld, houtgoing, hdiscarded,
    hpaced.undispatched, List.count_nil] at htally
  have hsplit := congrArg (List.count i) (List.take_append_drop s.counters.dispatched (List.range total))
  rw [List.count_append, hfirst] at hsplit
  rw [List.count_append]
  omega

end Pipeline

end Fanout
