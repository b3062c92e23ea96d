import Fanout.Proofs.Pipeline.Timers

/-!
A system that is driven from outside really takes its steps in one order: the actors have their turns
and idle workers take packets in the order in which they became idle. Whatever a schedule comes to in a
session, the moves of a description come to as well that can do what a schedule does in one step
(`Mirrors`). So what holds of all sessions, and of all crews, holds of the one that is carried out
(`exists_session_of_schedule`, `exists_crew_of_schedule`).
-/

namespace Fanout

open Pipeline

namespace Schedule

variable {μ σ : Type} {move : μ → σ → Option σ} {R : Schedule → σ → Prop} {x : Schedule} {f : σ}

/-- The moves can do whatever a schedule does in one step or by calls, whoever has the turn. -/
structure Mirrors (move : μ → σ → Option σ) (R : Schedule → σ → Prop) : Prop where
  ready : ∀ {x f} ready, R x f → R { x with ready } f
  act : ∀ {x f a t}, R x f → x.state.step a = some t → (∀ k, a = .worker k → x.mayPass k = true) →
    ∃ moves g, followBy move moves f = some g ∧ R (x.update t) g
  calls : ∀ {x f} cs, R x f →
    ∃ moves g, followBy move moves f = some g ∧ R (x.update (x.state.calls cs).2) g

theorem exists_follow_trans {g : σ} {P : σ → Prop} {moves : List μ}
    (h : followBy move moves f = some g)
    (hlater : ∃ later k, followBy move later g = some k ∧ P k) :
    ∃ moves k, followBy move moves f = some k ∧ P k := by
  obtain ⟨later, k, hk, hP⟩ := hlater
  exact ⟨moves ++ later, k, by rw [followBy_append, h, Option.bind_some, hk], hP⟩

namespace Mirrors

variable (h : Mirrors move R)
include h

theorem settleWithin (fuel : Nat) (hx : R x f) :
    ∃ moves g, followBy move moves f = some g ∧ R (settleWithin fuel x) g := by
  induction fuel generalizing x f with
  | zero => exact ⟨[], f, rfl, hx⟩
  | succ fuel ih =>
      unfold Schedule.settleWithin
      split
      next a rest hready =>
        obtain ⟨t, ht, hpass⟩ := exists_step_of_turn hready
        obtain ⟨moves, g, hfollow, hg⟩ := h.act (h.ready (a :: rest) hx) ht hpass
        rw [act_eq (x := { x with ready := a :: rest }) ht]
        exact exists_follow_trans hfollow (ih hg)
      next =>
        dsimp only
        split
        next ticket _ =>
          cases hstep : x.state.step (.execution ticket) with
          | none =>
              rw [Schedule.act, hstep]
              exact ih (h.ready [] hx)
          | some t =>
              obtain ⟨moves, g, hfollow, hg⟩ := h.act (h.ready [] hx) hstep nofun
              rw [act_eq (x := { x with ready := [] }) hstep]
              exact exists_follow_trans hfollow (ih hg)
        next => exact ⟨[], f, rfl, h.ready [] hx⟩

theorem turns (calls : List (List Call)) (hx : R x f) :
    ∃ moves g, followBy move moves f = some g ∧ R (Schedule.turns calls x).2 g := by
  induction calls generalizing x f with
  | nil => exact ⟨[], f, rfl, hx⟩
  | cons cs rest ih =>
      obtain ⟨moves, g, hfollow, hg⟩ := h.calls cs hx
      obtain ⟨later, k, hlater, hk⟩ := h.settleWithin _ hg
      exact exists_follow_trans hfollow (exists_follow_trans hlater (ih hk))

/-- What a schedule comes to in a session, the moves come to. -/
theorem session (calls : List (List Call)) (hx : R x f) :
    ∃ moves g, followBy move moves f = some g ∧
      ∃ y, y.state = (x.session calls).2 ∧ R y g := by
  obtain ⟨moves, g, hfollow, hg⟩ := h.settleWithin (x.state.potential + 1) hx
  obtain ⟨later, k, hlater, hk⟩ := h.turns calls hg
  exact exists_follow_trans hfollow ⟨later, k, hlater, _, rfl, hk⟩

end Mirrors

end Schedule

namespace Session

/-- A session can do what a schedule does. -/
theorem mirrors : Schedule.Mirrors move fun x f => f.state = x.state where
  ready _ h := h
  act {x f a t} h ht _ := by
    have hmove : move (.act a) f = some { state := t, taken := f.taken ++
        (f.state.take? (.act a)).toList } := by
      rw [move, h, ht]
      rfl
    exact ⟨[.act a], _, congrArg (Option.bind · (followBy move [])) hmove, rfl⟩
  calls {x f} cs h := by
    refine ⟨cs.map .call, { f with state := (x.state.calls cs).2 }, ?_, rfl⟩
    rw [← h]
    clear h
    induction cs generalizing f with
    | nil => rfl
    | cons c rest ih => exact ih (f := { f with state := (f.state.call c).2 })

/-- Whatever a system that is driven from outside comes to, a session comes to. -/
theorem exists_session_of_schedule (s : Pipeline) (order : List Actor) (calls : List (List Call)) :
    ∃ moves f, followBy move moves { state := s } = some f ∧
      f.state = ((Schedule.start s order).session calls).2 := by
  obtain ⟨moves, f, hfollow, y, hy, hf⟩ :=
    mirrors.session calls (x := Schedule.start s order) (f := { state := s }) rfl
  exact ⟨moves, f, hfollow, hf.trans hy⟩

end Session

namespace Crew

variable {f g : Crew} {x : Schedule}

/-- As long as the signal is open, the line of a crew is the line in which idle workers take packets. -/
structure Resembles (x : Schedule) (f : Crew) : Prop where
  state : f.state = x.state
  line : f.state.signal.isShutdown = false → f.line = x.idle
  idle : ∀ k ∈ f.line, f.state.isIdleAt k = true

theorem follow_asks (ks : List Nat) (hopen : f.state.signal.isShutdown = false)
    (hidle : ∀ k ∈ ks, f.state.isIdleAt k = true) (hnodup : ks.Nodup) (hnew : ∀ k ∈ ks, k ∉ f.line) :
    followBy move (ks.map .ask) f = some { f with line := f.line ++ ks } := by
  induction ks generalizing f with
  | nil => simp [followBy]
  | cons k rest ih =>
      obtain ⟨hk, hrest⟩ := List.nodup_cons.mp hnodup
      have hask : f.mayAsk k = true := by
        simp [mayAsk, hopen, hidle k List.mem_cons_self, hnew k List.mem_cons_self]
      have hnext := ih (f := { f with line := f.line ++ [k] }) hopen
        (fun j hj => hidle j (List.mem_cons_of_mem _ hj)) hrest fun j hj => by
          rw [List.mem_append, List.mem_singleton, not_or]
          exact ⟨hnew j (List.mem_cons_of_mem _ hj), fun heq => hk (heq ▸ hj)⟩
      rw [List.map_cons, followBy, move, if_pos hask, Option.bind_some, hnext]
      simp

theorem isIdleAt_iff {s : Pipeline} {k : Nat} :
    s.isIdleAt k = true ↔ k ∈ Schedule.workersAt WorkerPoint.isIdle s := by
  rw [Schedule.mem_workersAt, isIdleAt, Option.any_eq_true]

theorem nodup_workersAt (present : WorkerPoint → Bool) (s : Pipeline) :
    (Schedule.workersAt present s).Nodup := by
  have hall : (s.workers.zipIdx.map (·.2)).Nodup := by
    rw [List.zipIdx_map_snd]
    exact List.nodup_range'
  exact hall.sublist (List.filter_sublist.map _)

/-- Whoever has become idle joins the line. -/
theorem exists_resembles_update (hline : f.state.signal.isShutdown = false →
      f.line = x.idle.filter f.state.isIdleAt)
    (hidle : ∀ k ∈ f.line, f.state.isIdleAt k = true) :
    ∃ moves g, followBy move moves f = some g ∧ Resembles (x.update f.state) g := by
  cases hsignal : f.state.signal.isShutdown with
  | true =>
      refine ⟨[], f, rfl, rfl, fun hopen => ?_, hidle⟩
      rw [hsignal] at hopen
      cases hopen
  | false =>
      let here := Schedule.workersAt WorkerPoint.isIdle f.state
      let newcomers := here.filter (!x.idle.contains ·)
      have hnewcomers : ∀ k ∈ newcomers, f.state.isIdleAt k = true ∧ k ∉ x.idle := by
        intro k hk
        obtain ⟨hhere, hnew⟩ := List.mem_filter.mp hk
        exact ⟨isIdleAt_iff.mpr hhere, by simpa using hnew⟩
      have hfollow := follow_asks newcomers hsignal (fun k hk => (hnewcomers k hk).1)
        ((nodup_workersAt _ _).filter _) fun k hk hold => by
          rw [hline hsignal] at hold
          exact (hnewcomers k hk).2 (List.mem_filter.mp hold).1
      refine ⟨_, _, hfollow, rfl, fun _ => ?_, ?_⟩
      · have hstays : x.idle.filter f.state.isIdleAt = x.idle.filter here.contains := by
          refine List.filter_congr fun k _ => ?_
          rw [Bool.eq_iff_iff, isIdleAt_iff, List.contains_iff_mem]
        show f.line ++ newcomers = _
        rw [hline hsignal, hstays]
        rfl
      · intro k hk
        rcases List.mem_append.mp hk with hold | hnew
        · exact hidle k hold
        · exact (hnewcomers k hnew).1

/-- Who has the turn in a schedule may act in a crew. -/
theorem Resembles.mayAct (h : Resembles x f) {a : Actor}
    (hpass : ∀ k, a = .worker k → x.mayPass k = true) : f.mayAct a = true := by
  cases a with
  | worker k =>
      have hturn := hpass k rfl
      cases hsignal : f.state.signal.isShutdown with
      | true => simp [Crew.mayAct, hsignal]
      | false =>
          cases hidle : f.state.isIdleAt k with
          | false => simp [Crew.mayAct, hidle]
          | true =>
              obtain ⟨⟨id, point⟩, hworker, hpoint⟩ := (Option.any_eq_true _ _).mp hidle
              cases Schedule.eq_idle_of_isIdle hpoint
              rw [h.state] at hworker
              have hfirst : x.idle.head? = some k := by
                simpa [Schedule.mayPass, h.state ▸ hsignal, hworker] using hturn
              simp [Crew.mayAct, h.line hsignal, hfirst]
  | _ => rfl

/-- Calls leave the line and the workers alone, and do not open the signal. -/
theorem follow_calls (cs : List Call) (f : Crew) :
    ∃ g, followBy move (cs.map .call) f = some g ∧ g.state = (f.state.calls cs).2 ∧
      g.line = f.line ∧ g.state.workers = f.state.workers ∧
      (f.state.signal.isShutdown = true → g.state.signal.isShutdown = true) := by
  induction cs generalizing f with
  | nil => exact ⟨f, rfl, rfl, rfl, rfl, id⟩
  | cons c rest ih =>
      obtain ⟨g, hfollow, hstate, hline, hworkers, hsignal⟩ := ih { f with
        state := (f.state.call c).2
        sent := f.sent ++ (f.state.sending? c).toList }
      exact ⟨g, hfollow, hstate, hline, hworkers.trans (stagesFrame_of_call _ c).workers,
        fun h => hsignal (isShutdown_of_call c h)⟩

/-- A crew can do what a schedule does. -/
theorem mirrors : Schedule.Mirrors move Resembles where
  ready _ h := ⟨h.state, h.line, h.idle⟩
  act {x f a t} h ht hpass := by
    have hfollow : followBy move [.act a] f = some { f with
        state := t
        line := f.line.filter t.isIdleAt
        taken := f.taken ++ (f.state.take? (.act a)).toList } := by
      rw [followBy, move, if_pos (h.mayAct hpass), h.state, ht]
      rfl
    refine Schedule.exists_follow_trans hfollow (exists_resembles_update (fun hopen => ?_) fun k hk => (List.mem_filter.mp hk).2)
    have hbefore : f.state.signal.isShutdown = false := by
      by_contra hclosed
      rw [h.state] at hclosed
      have hstays := (onward_of_move (m := .act a) ht).shutdown (eq_true_of_ne_false hclosed)
      rw [hopen] at hstays
      cases hstays
    show f.line.filter t.isIdleAt = x.idle.filter t.isIdleAt
    rw [h.line hbefore]
  calls {x f} cs h := by
    obtain ⟨g, hfollow, hstate, hline, hworkers, hsignal⟩ := follow_calls cs f
    have hidle : ∀ k ∈ g.line, g.state.isIdleAt k = true := by
      intro k hk
      rw [isIdleAt, hworkers]
      exact h.idle k (hline ▸ hk)
    rw [← h.state, ← hstate]
    refine Schedule.exists_follow_trans hfollow (exists_resembles_update (fun hopen => ?_) hidle)
    have hbefore : f.state.signal.isShutdown = false := by
      by_contra hclosed
      rw [hsignal (eq_true_of_ne_false hclosed)] at hopen
      cases hopen
    rw [← h.line hbefore, ← hline, List.filter_eq_self.mpr hidle]

/-- Whatever a pool that is driven from outside comes to, a crew comes to: who is first among the idle
workers is first in the line for the receiver. -/
theorem exists_crew_of_schedule (config : PipelineConfig) (capacity : Nat) (order : List Actor)
    (calls : List (List Call)) : ∃ moves f, followBy move moves (start config capacity) = some f ∧
      f.state = ((Schedule.start (ofPool config capacity) order).session calls).2 := by
  obtain ⟨moves, f, hfollow, hf⟩ := exists_resembles_update (f := start config capacity)
    (x := { state := ofPool config capacity, ready := order }) (fun _ => rfl) nofun
  obtain ⟨moves, g, hfollow, y, hy, hg⟩ :=
    Schedule.exists_follow_trans hfollow (mirrors.session calls hf)
  exact ⟨moves, g, hfollow, hg.state.trans hy⟩

end Crew

end Fanout
