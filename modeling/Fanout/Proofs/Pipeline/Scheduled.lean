import Fanout.Proofs.Pipeline.Launch

/-!
The order in which a run really takes its steps is one of the orders that are possible: whatever a
schedule comes to is reachable (`reachable_of_run`), so that what holds of all reachable states holds
of the run that is carried out.
-/

namespace Fanout

open Pipeline

namespace Schedule

variable {config : PipelineConfig} {jobs : List Job} {x : Schedule}

theorem act_eq {a : Actor} {s : Pipeline} (h : x.state.step a = some s) : x.act a = x.update s := by
  rw [act, h]

/-- One more turn is at most one more step. -/
theorem follow_act {a : Actor} {s : Pipeline} {actors : List Actor}
    (h : (x.act a).state.follow (actors.map .act) = some s) :
    ∃ actors : List Actor, x.state.follow (actors.map .act) = some s := by
  cases hstep : x.state.step a with
  | none =>
      rw [act, hstep] at h
      exact ⟨actors, h⟩
  | some t =>
      rw [act_eq hstep] at h
      refine ⟨a :: actors, ?_⟩
      rw [List.map_cons, follow, Pipeline.move, hstep]
      exact h

/-- What runs on by itself takes steps of the actors only. -/
theorem follow_settleWithin (fuel : Nat) (x : Schedule) :
    ∃ actors : List Actor,
      x.state.follow (actors.map .act) = some (settleWithin fuel x).state := by
  induction fuel generalizing x with
  | zero => exact ⟨[], rfl⟩
  | succ fuel ih =>
      unfold settleWithin
      split
      next a rest hready =>
        obtain ⟨actors, hactors⟩ := ih ({ x with ready := a :: rest }.act a)
        exact follow_act (x := { x with ready := a :: rest }) hactors
      next hready =>
        dsimp only
        split
        next ticket _ =>
          obtain ⟨actors, hactors⟩ := ih ({ x with ready := [] }.act (.execution ticket))
          exact follow_act (x := { x with ready := [] }) hactors
        next => exact ⟨[], rfl⟩

theorem reachable_settle (hx : Reachable config jobs x.state) :
    Reachable config jobs x.settle.state := by
  obtain ⟨actors, hactors⟩ := follow_settleWithin (x.state.potential + 1) x
  exact hx.follow hactors

/-- The clock moves to a moment that is still to come. -/
theorem lt_of_nextMoment? {s : Pipeline} {moment : Nat} (h : s.nextMoment? = some moment) :
    s.now < moment := by
  have hmem := List.min?_mem h
  simpa using (List.mem_filter.mp hmem).2

theorem reachable_elapse (fuel : Nat) (hx : Reachable config jobs x.state) :
    Reachable config jobs (elapse fuel x).state := by
  induction fuel generalizing x with
  | zero => exact hx
  | succ fuel ih =>
      unfold elapse
      split
      next => exact hx
      next =>
        split
        next => exact hx
        next moment hmoment =>
          have hlater := lt_of_nextMoment? hmoment
          have hclock : x.state.move (.advance (moment - x.state.now)) =
              some { x.state with now := moment } := by
            simp only [Pipeline.move, advance]
            rw [Nat.add_sub_of_le (Nat.le_of_lt hlater)]
          have hmoved := hx.move hclock
          have hresumed : Reachable config jobs (x.update { x.state with now := moment }).state := hmoved
          exact ih (reachable_settle hresumed)

end Schedule

/-- What a run comes to is reachable. -/
theorem reachable_of_run {config : PipelineConfig} {works : List Work} {s : Pipeline}
    (h : config.run works = .ok s) :
    config.defect? = none ∧ Reachable config (works.map fun work => { work }) s := by
  cases hlaunch : config.launch works with
  | error fault =>
    rw [PipelineConfig.run, hlaunch] at h
    cases h
  | ok start =>
    obtain ⟨hvalid, -, rfl⟩ := PipelineConfig.of_launch_eq_ok hlaunch
    rw [PipelineConfig.run, hlaunch] at h
    cases h
    exact ⟨hvalid, Schedule.reachable_elapse _ (Schedule.reachable_settle .start)⟩

end Fanout
