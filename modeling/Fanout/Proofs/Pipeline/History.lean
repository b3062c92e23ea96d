import Mathlib.Data.List.Induction
import Fanout.Proofs.Pipeline.Run

/-!
What happens to the tasks of a run, in the order in which it happens. The history of a run is read off
its moves, so that statements can speak of what came before the present state: whether the work of a
task returned in time, whether its worker gave it up, and why. What every move preserves of a history
and a state is true of every run and its history (`traced_induction`).
-/

namespace Fanout

/-- What happens to a task whose work has begun. -/
inductive Happening
  /-- The work returned this packet while a worker waited for it. -/
  | returned (packet : Packet Job)
  /-- The work panicked while a worker waited for it. -/
  | panicked (task : Nat)
  /-- The deadline came first, and the worker gives the task up. -/
  | expired (task : Nat)
  /-- The worker learns of the panic and gives the task up. -/
  | heardPanic (task : Nat)
  /-- The worker leaves because the signal was closed. -/
  | left (task : Nat)
  deriving DecidableEq, Repr

/-- What a worker that goes on from here makes happen to its task. -/
def WorkerPoint.happening? (closed : Bool) : WorkerPoint → Option Happening
  | .executing _ task _ outcome =>
    if closed then some (.left task)
    else match outcome with
      | .running => some (.expired task)
      | .panicked => some (.heardPanic task)
      | .returned _ => none
  | _ => none

/-- How a work ends that a worker waits for. -/
def Execution.happening (e : Execution) : Happening :=
  if e.packet.item.work.panics then .panicked e.packet.task
  else .returned (e.packet.mapItem Job.afterRun)

namespace Pipeline

/-- What the end of the work with this ticket makes happen to its task: nothing, when nobody waits for
it any more. -/
def ending? (ticket : Nat) (s : Pipeline) : Option Happening :=
  if (s.waiting? ticket).isSome then
    (s.executions.find? (·.ticket == ticket)).map Execution.happening
  else none

/-- What a move makes happen to a task. -/
def happening? (s : Pipeline) : Move → Option Happening
  | .act (.worker k) => (s.workers[k]?).bind fun w => w.point.happening? s.signal.isShutdown
  | .act (.execution ticket) => s.ending? ticket
  | _ => none

/-- What is noted of each move, in the order of the moves. -/
def recorded {β : Type} (note : Pipeline → Move → Option β) : List Move → Pipeline → List β
  | [], _ => []
  | m :: rest, s => (note s m).toList ++ (s.move m).elim [] (recorded note rest)

theorem recorded_append {β : Type} (note : Pipeline → Move → Option β) (first second : List Move)
    (s : Pipeline) : recorded note (first ++ second) s =
      recorded note first s ++ (s.follow first).elim [] (recorded note second) := by
  induction first generalizing s with
  | nil => rfl
  | cons m rest ih =>
      simp only [List.cons_append, recorded, follow, List.append_assoc]
      congr 1
      cases hmove : s.move m with
      | none => rfl
      | some t => exact ih t

/-- One more move adds what is noted of it. -/
theorem recorded_concat {β : Type} (note : Pipeline → Move → Option β) {before : List Move} {m : Move}
    {s u v : Pipeline} (hbefore : s.follow before = some u) (hmove : u.move m = some v) :
    recorded note (before ++ [m]) s = recorded note before s ++ (note u m).toList := by
  rw [recorded_append, hbefore]
  simp only [Option.elim_some, recorded, hmove, List.append_nil]

/-- What happens to the tasks while these moves are made. -/
def happenings : List Move → Pipeline → List Happening
  | [], _ => []
  | m :: rest, s => (s.happening? m).toList ++ (s.move m).elim [] (happenings rest)

theorem happenings_eq_recorded (moves : List Move) (s : Pipeline) :
    s.happenings moves = recorded happening? moves s := by
  induction moves generalizing s with
  | nil => rfl
  | cons m rest ih =>
      simp only [happenings, recorded]
      cases s.move m with
      | none => rfl
      | some t => simp only [Option.elim_some, ih]

theorem happenings_append (first second : List Move) (s : Pipeline) :
    s.happenings (first ++ second) =
      s.happenings first ++ (s.follow first).elim [] (happenings second) := by
  simp only [happenings_eq_recorded, recorded_append]
  cases s.follow first with
  | none => rfl
  | some t => simp only [Option.elim_some, happenings_eq_recorded]

variable {s t : Pipeline}

/-- What has happened did so at some move. -/
theorem exists_of_mem_happenings {moves : List Move} {x : Happening}
    (h : x ∈ s.happenings moves) : ∃ before m after u, moves = before ++ m :: after ∧
      s.follow before = some u ∧ u.happening? m = some x := by
  induction moves generalizing s with
  | nil => cases h
  | cons m rest ih =>
      rcases List.mem_append.mp h with hnow | hlater
      · exact ⟨[], m, rest, s, rfl, rfl, Option.mem_toList.mp hnow⟩
      · cases hmove : s.move m with
        | none =>
            rw [hmove] at hlater
            cases hlater
        | some v =>
            rw [hmove] at hlater
            obtain ⟨before, m', after, u, rfl, hbefore, hx⟩ := ih hlater
            refine ⟨m :: before, m', after, u, rfl, ?_, hx⟩
            rw [follow, hmove]
            exact hbefore

/-- The end of a work makes something happen when a worker waits for it. -/
theorem ending?_eq_some {ticket : Nat} {x : Happening} (h : s.ending? ticket = some x) :
    ∃ (k task startedAt : Nat) (e : Execution) (w : Worker),
      s.executions.find? (·.ticket == ticket) = some e ∧ s.workers[k]? = some w ∧
      w.point = .executing ticket task startedAt .running ∧ e.happening = x := by
  unfold ending? at h
  split at h
  next hwaiting =>
    obtain ⟨⟨k, w⟩, hfound⟩ := Option.isSome_iff_exists.mp hwaiting
    obtain ⟨hworker, task, startedAt, hpoint⟩ := waiting?_eq_some hfound
    obtain ⟨e, he, hhappening⟩ := Option.map_eq_some_iff.mp h
    exact ⟨k, task, startedAt, e, w, he, hworker, hpoint, hhappening⟩
  next => cases h

inductive TracedMove (s : Pipeline) : Option Happening → Pipeline → Prop
  | dispatcher {t : Pipeline} (h : DispatcherStep s t) : TracedMove s none t
  | worker {t : Pipeline} (k : Nat) (w : Worker) (hworker : s.workers[k]? = some w)
      (h : WorkerStep s k w t) : TracedMove s (w.point.happening? s.signal.isShutdown) t
  | collector {t : Pipeline} (h : CollectorStep s t) : TracedMove s none t
  | supervisor {t : Pipeline} (h : SupervisorStep s t) : TracedMove s none t
  | execution {t : Pipeline} (ticket : Nat) (h : ExecutionStep s ticket t) :
      TracedMove s (s.ending? ticket) t
  | advanced (ms : Nat) : TracedMove s none (s.advance ms)
  | released (task : Nat) : TracedMove s none (s.release task)

theorem tracedMove_of_move {m : Move} (h : s.move m = some t) :
    TracedMove s (s.happening? m) t := by
  cases moveBy_of_move h with
  | dispatcher h => exact .dispatcher h
  | worker k w hworker h =>
      have hhappening : s.happening? (.act (.worker k)) =
          w.point.happening? s.signal.isShutdown := by
        rw [happening?, hworker]
        rfl
      rw [hhappening]
      exact .worker k w hworker h
  | collector h => exact .collector h
  | supervisor h => exact .supervisor h
  | execution ticket h => exact .execution ticket h
  | advanced ms => exact .advanced ms
  | released task => exact .released task

/-- A worker that moves makes one of three things happen to its task, if anything. -/
theorem WorkerStep.happening_cases {k : Nat} {w : Worker} {x : Happening} (h : WorkerStep s k w t)
    (hx : w.point.happening? s.signal.isShutdown = some x) :
    (∃ ticket task startedAt, w.point = .executing ticket task startedAt .running ∧
      startedAt + s.taskTimeoutMs ≤ s.now ∧ x = .expired task) ∨
    (∃ ticket task startedAt, w.point = .executing ticket task startedAt .panicked ∧
      x = .heardPanic task) ∨
    ∃ task ∈ t.discarded, x = .left task := by
  cases h with
  | expired ticket task startedAt hpoint hsignal hdeadline =>
      rw [hpoint, hsignal] at hx
      cases hx
      exact .inl ⟨ticket, task, startedAt, hpoint, hdeadline, rfl⟩
  | heardPanic ticket task startedAt hpoint hsignal =>
      rw [hpoint, hsignal] at hx
      cases hx
      exact .inr (.inl ⟨ticket, task, startedAt, hpoint, rfl⟩)
  | left _ task _ _ hpoint hsignal | leftCrashing _ task _ _ _ hpoint hsignal =>
      rw [hpoint, hsignal] at hx
      cases hx
      exact .inr (.inr ⟨task, by simp [endWorker, crashWorker], rfl⟩)
  | heardReturn _ _ _ _ hpoint hsignal =>
      rw [hpoint, hsignal] at hx
      cases hx
  | took _ _ hpoint | countedTimeout _ hpoint | countedPanic _ hpoint | forwarded _ hpoint
  | dismissed hpoint | drained hpoint | dropped _ hpoint | unheard _ hpoint
  | droppedCrashing _ _ hpoint | unheardCrashing _ _ hpoint =>
      rw [hpoint] at hx
      cases hx

/-- The end of a work that a worker waits for is part of the history. -/
theorem ending?_of_waiting {ticket k task startedAt : Nat} {e : Execution} {w : Worker}
    (hfind : s.executions.find? (·.ticket == ticket) = some e) (hworker : s.workers[k]? = some w)
    (hpoint : w.point = .executing ticket task startedAt .running) :
    s.ending? ticket = some e.happening := by
  have hwaiting : (s.waiting? ticket).isSome = true := by
    by_contra hnone
    rw [Option.not_isSome_iff_eq_none] at hnone
    exact waiting?_eq_none hnone w (List.mem_of_getElem? hworker) task startedAt hpoint
  rw [ending?, if_pos hwaiting, hfind]
  rfl

/-! ### Runs with their histories -/

variable {config : PipelineConfig} {jobs : List Job}

/-- A property of no moves and the first state, which every further move preserves, holds of every
run. -/
theorem follow_induction {P : List Move → Pipeline → Prop} {moves : List Move}
    (h : (ofRun config jobs).follow moves = some s) (start : P [] (ofRun config jobs))
    (move : ∀ before u m v, (ofRun config jobs).follow before = some u → P before u →
      u.move m = some v → P (before ++ [m]) v) : P moves s := by
  induction moves using List.reverseRecOn generalizing s with
  | nil => exact Option.some.inj h ▸ start
  | append_singleton before m ih =>
      rw [follow_append] at h
      obtain ⟨u, hbefore, hlast⟩ := Option.bind_eq_some_iff.mp h
      obtain ⟨v, hmove, hend⟩ := Option.bind_eq_some_iff.mp hlast
      cases hend
      exact move before u m s hbefore (ih hbefore) hmove

/-- A property of the first state with no history, which every move from a reachable state preserves
when what it makes happen is added, holds of every run. -/
theorem traced_induction {P : List Happening → Pipeline → Prop} {moves : List Move}
    (h : (ofRun config jobs).follow moves = some s) (start : P [] (ofRun config jobs))
    (move : ∀ past s now t, Reachable config jobs s → P past s → TracedMove s now t →
      P (past ++ now.toList) t) : P ((ofRun config jobs).happenings moves) s := by
  rw [happenings_eq_recorded]
  refine follow_induction (P := fun moves s => P (recorded happening? moves (ofRun config jobs)) s) h
    start ?_
  intro before u m v hbefore ih hmove
  rw [recorded_concat happening? hbefore hmove]
  exact move _ u _ v ⟨before, hbefore⟩ ih (tracedMove_of_move hmove)

end Pipeline

end Fanout
