import Fanout.Proofs.Pipeline.Rules

/-!
Runs. A run is a list of moves: an actor takes a step, the clock moves by any amount, or a work that
waits to be released is let go. Nothing is assumed about the order, so whatever holds of all reachable
states holds under every scheduler. What every move preserves is true of every reachable state
(`Reachable.induction`).
-/

namespace Fanout

/-- What can happen next while a run is under way. -/
inductive Move
  | act (actor : Actor)
  | advance (ms : Nat)
  | release (task : Nat)
  deriving DecidableEq, Repr

/-- Makes moves of any kind one after the other. There is no result where one of them is not
possible. -/
def followBy {μ σ : Type} (move : μ → σ → Option σ) : List μ → σ → Option σ
  | [], x => some x
  | m :: rest, x => (move m x).bind (followBy move rest)

theorem followBy_append {μ σ : Type} (move : μ → σ → Option σ) (first second : List μ) (x : σ) :
    followBy move (first ++ second) x = (followBy move first x).bind (followBy move second) := by
  induction first generalizing x with
  | nil => rfl
  | cons m rest ih =>
      simp only [List.cons_append, followBy, Option.bind_assoc]
      congr 1
      funext y
      exact ih y

/-- What every move preserves is preserved by all of them together. -/
theorem followBy_preserves {μ σ : Type} {move : μ → σ → Option σ} {P : σ → Prop}
    (hmove : ∀ x m y, P x → move m x = some y → P y) {moves : List μ} {x y : σ} (hx : P x)
    (h : followBy move moves x = some y) : P y := by
  induction moves generalizing x with
  | nil => exact Option.some.inj h ▸ hx
  | cons m rest ih =>
      obtain ⟨u, hu, hrest⟩ := Option.bind_eq_some_iff.mp h
      exact ih (hmove x m u hx hu) hrest

namespace Pipeline

def move : Move → Pipeline → Option Pipeline
  | .act a, s => s.step a
  | .advance ms, s => some (s.advance ms)
  | .release task, s => some (s.release task)

/-- Makes moves one after the other. There is no result where one of them is not possible. -/
def follow : List Move → Pipeline → Option Pipeline
  | [], s => some s
  | m :: rest, s => (s.move m).bind (follow rest)

/-- A state that a run of these items can come to. -/
def Reachable (config : PipelineConfig) (jobs : List Job) (s : Pipeline) : Prop :=
  ∃ moves, (ofRun config jobs).follow moves = some s

theorem follow_append (first second : List Move) (s : Pipeline) :
    s.follow (first ++ second) = (s.follow first).bind (follow second) := by
  induction first generalizing s with
  | nil => rfl
  | cons m rest ih =>
      simp only [List.cons_append, follow, Option.bind_assoc]
      congr 1
      funext t
      exact ih t

/-- What every move preserves is preserved by a run. -/
theorem follow_preserves {P : Pipeline → Prop}
    (hmove : ∀ s m t, P s → s.move m = some t → P t) {moves : List Move} {s t : Pipeline}
    (hs : P s) (h : s.follow moves = some t) : P t := by
  induction moves generalizing s with
  | nil => exact Option.some.inj h ▸ hs
  | cons m rest ih =>
      obtain ⟨u, hu, hrest⟩ := Option.bind_eq_some_iff.mp h
      exact ih (hmove s m u hs hu) hrest

variable {config : PipelineConfig} {jobs : List Job}

theorem Reachable.start : Reachable config jobs (ofRun config jobs) :=
  ⟨[], rfl⟩

theorem Reachable.follow {s t : Pipeline} {moves : List Move} (hs : Reachable config jobs s)
    (h : s.follow moves = some t) : Reachable config jobs t := by
  obtain ⟨before, hbefore⟩ := hs
  refine ⟨before ++ moves, ?_⟩
  rw [follow_append, hbefore]
  exact h

theorem Reachable.move {s t : Pipeline} {m : Move} (hs : Reachable config jobs s)
    (h : s.move m = some t) : Reachable config jobs t :=
  hs.follow (show s.follow [m] = some t by rw [Pipeline.follow, h]; rfl)

/-- A property of the first state that every move from a reachable state preserves holds of all
reachable states. -/
@[elab_as_elim]
theorem Reachable.induction {P : Pipeline → Prop} {s : Pipeline} (hs : Reachable config jobs s)
    (start : P (ofRun config jobs))
    (move : ∀ s m t, Reachable config jobs s → P s → s.move m = some t → P t) : P s := by
  obtain ⟨moves, h⟩ := hs
  have hboth : Reachable config jobs s ∧ P s :=
    follow_preserves (P := fun u => Reachable config jobs u ∧ P u)
      (fun s m t hs h => ⟨hs.1.move h, move s m t hs.1 hs.2 h⟩) ⟨.start, start⟩ h
  exact hboth.2

/-- The moves by the actors that make them. -/
inductive MoveStep (s : Pipeline) : Pipeline → Prop
  | dispatcher {t : Pipeline} (h : DispatcherStep s t) : MoveStep s t
  | worker {t : Pipeline} (k : Nat) (w : Worker) (hworker : s.workers[k]? = some w)
      (h : WorkerStep s k w t) : MoveStep s t
  | collector {t : Pipeline} (h : CollectorStep s t) : MoveStep s t
  | supervisor {t : Pipeline} (h : SupervisorStep s t) : MoveStep s t
  | execution {t : Pipeline} (ticket : Nat) (h : ExecutionStep s ticket t) : MoveStep s t
  | advanced (ms : Nat) : MoveStep s (s.advance ms)
  | released (task : Nat) : MoveStep s (s.release task)

/-- The same with the move that is made. -/
inductive MoveBy (s : Pipeline) : Move → Pipeline → Prop
  | dispatcher {t : Pipeline} (h : DispatcherStep s t) : MoveBy s (.act .dispatcher) t
  | worker {t : Pipeline} (k : Nat) (w : Worker) (hworker : s.workers[k]? = some w)
      (h : WorkerStep s k w t) : MoveBy s (.act (.worker k)) t
  | collector {t : Pipeline} (h : CollectorStep s t) : MoveBy s (.act .collector) t
  | supervisor {t : Pipeline} (h : SupervisorStep s t) : MoveBy s (.act .supervisor) t
  | execution {t : Pipeline} (ticket : Nat) (h : ExecutionStep s ticket t) :
      MoveBy s (.act (.execution ticket)) t
  | advanced (ms : Nat) : MoveBy s (.advance ms) (s.advance ms)
  | released (task : Nat) : MoveBy s (.release task) (s.release task)

theorem moveBy_of_move {s t : Pipeline} {m : Move} (h : s.move m = some t) : MoveBy s m t := by
  cases m with
  | act actor =>
      cases actor with
      | dispatcher => exact .dispatcher (dispatcherStep_of_step h)
      | worker k =>
          obtain ⟨w, hworker, hstep⟩ := workerStep_of_step h
          exact .worker k w hworker hstep
      | collector => exact .collector (collectorStep_of_step h)
      | supervisor => exact .supervisor (supervisorStep_of_step h)
      | execution ticket => exact .execution ticket (executionStep_of_step h)
  | advance ms => exact Option.some.inj h ▸ .advanced ms
  | release task => exact Option.some.inj h ▸ .released task

theorem moveStep_of_move {s t : Pipeline} {m : Move} (h : s.move m = some t) : MoveStep s t := by
  cases moveBy_of_move h with
  | dispatcher h => exact .dispatcher h
  | worker k w hworker h => exact .worker k w hworker h
  | collector h => exact .collector h
  | supervisor h => exact .supervisor h
  | execution ticket h => exact .execution ticket h
  | advanced ms => exact .advanced ms
  | released task => exact .released task

end Pipeline

end Fanout
