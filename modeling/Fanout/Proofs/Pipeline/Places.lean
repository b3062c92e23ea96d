import Mathlib.Algebra.GroupWithZero.Nat
import Fanout.Proofs.Pipeline.Tickets

/-!
Where the tasks of a run are. Every stage, channel and record of a run holds a list of tasks. Lists
are compared by their weight under any weight function, so that one equation speaks of how many tasks
there are and of how often each of them occurs.
-/

namespace Fanout

/-! ### Weights -/

def weigh (f : Nat → Nat) (tasks : List Nat) : Nat :=
  (tasks.map f).sum

@[simp] theorem weigh_nil (f : Nat → Nat) : weigh f [] = 0 :=
  rfl

@[simp] theorem weigh_cons (f : Nat → Nat) (i : Nat) (tasks : List Nat) :
    weigh f (i :: tasks) = f i + weigh f tasks :=
  rfl

@[simp] theorem weigh_append (f : Nat → Nat) (first second : List Nat) :
    weigh f (first ++ second) = weigh f first + weigh f second := by
  simp [weigh]

theorem weigh_one (tasks : List Nat) : weigh (fun _ => 1) tasks = tasks.length := by
  simp [weigh]

theorem weigh_indicator (i : Nat) (tasks : List Nat) :
    weigh (fun j => if j = i then 1 else 0) tasks = tasks.count i := by
  induction tasks with
  | nil => rfl
  | cons j rest ih =>
      rw [weigh_cons, ih, List.count_cons, Nat.add_comm]
      simp only [beq_iff_eq]

theorem weigh_perm {f : Nat → Nat} {first second : List Nat} (h : first.Perm second) :
    weigh f first = weigh f second :=
  (h.map f).sum_nat

/-! ### What a stage holds -/

/-- The task that the dispatcher drew and has not counted. -/
def DispatcherPoint.uncounted : DispatcherPoint → List Nat
  | .reserving _ p | .counting _ p => [p.task]
  | _ => []

/-- The task that the dispatcher counted and has not handed over. -/
def DispatcherPoint.counted : DispatcherPoint → List Nat
  | .committing p => [p.task]
  | _ => []

/-- The task that a worker has on its hands. -/
def WorkerPoint.held : WorkerPoint → List Nat
  | .executing _ task .. | .timedOut task | .panicked task => [task]
  | .forwarding p => [p.task]
  | _ => []

/-- The task that the collector took and has not counted. -/
def CollectorPoint.taken : CollectorPoint → List Nat
  | .accepting p _ => [p.task]
  | _ => []

attribute [simp] DispatcherPoint.uncounted.eq_1 DispatcherPoint.uncounted.eq_2
  DispatcherPoint.uncounted.eq_3 DispatcherPoint.counted.eq_1 DispatcherPoint.counted.eq_2
  WorkerPoint.held.eq_1 WorkerPoint.held.eq_2 WorkerPoint.held.eq_3 WorkerPoint.held.eq_4
  WorkerPoint.held.eq_5 CollectorPoint.taken.eq_1 CollectorPoint.taken.eq_2

@[simp] theorem DispatcherPoint.uncounted_afterDropping (lost : List (Packet Job)) :
    (DispatcherPoint.afterDropping lost).uncounted = [] :=
  apply_afterDropping uncounted rfl (fun _ => rfl) lost

@[simp] theorem DispatcherPoint.counted_afterDropping (lost : List (Packet Job)) :
    (DispatcherPoint.afterDropping lost).counted = [] :=
  apply_afterDropping counted rfl (fun _ => rfl) lost

@[simp] theorem CollectorPoint.taken_afterDropping (exit : CollectorExit) (lost : List (Packet Job)) :
    (CollectorPoint.afterDropping exit lost).taken = [] :=
  apply_afterDropping taken rfl (fun _ => rfl) lost

@[simp] theorem WorkerPoint.held_afterDropping (lost : List (Packet Job)) :
    (WorkerPoint.afterDropping lost).held = [] :=
  apply_afterDropping held rfl (fun _ => rfl) lost

namespace Pipeline

/-- The tasks that no dispatch was counted for. -/
def undispatched (s : Pipeline) : List Nat :=
  s.dispatcher.point.uncounted ++ s.dispatcher.remaining.map (·.task) ++ s.withheld

def handedOff (s : Pipeline) : List Nat :=
  s.dispatcher.point.counted ++ s.handoff.buffer.map (·.task)

def held (s : Pipeline) : List Nat :=
  s.workers.flatMap (·.point.held)

def outgoing (s : Pipeline) : List Nat :=
  s.collector.point.taken ++ s.outbound.buffer.map (·.task)

def collected (s : Pipeline) : List Nat :=
  s.collector.results.map (·.task)

/-- Where a task can be. -/
inductive Place
  /-- With the dispatcher, or dropped by it uncounted. -/
  | undispatched
  /-- In the handoff channel, or counted and about to be put there. -/
  | handoff
  | worker (index : Nat)
  /-- In the outbound channel, or taken from it and not counted. -/
  | outbound
  | results
  | abandoned
  /-- Dropped after it was counted. -/
  | discarded
  deriving DecidableEq, Repr

def tasksAt (s : Pipeline) : Place → List Nat
  | .undispatched => s.undispatched
  | .handoff => s.handedOff
  | .worker k => s.workers[k]?.elim [] (·.point.held)
  | .outbound => s.outgoing
  | .results => s.collected
  | .abandoned => s.abandonedTasks
  | .discarded => s.discarded

/-- The weight of all places together. -/
def tally (f : Nat → Nat) (s : Pipeline) : Nat :=
  weigh f s.undispatched + weigh f s.handedOff + weigh f s.held + weigh f s.outgoing +
    weigh f s.collected + weigh f s.abandonedTasks + weigh f s.discarded

variable {s t : Pipeline} {k : Nat} {w : Worker}

/-! ### Places that a move leaves alone -/

theorem undispatched_congr (hdispatcher : t.dispatcher = s.dispatcher)
    (hwithheld : t.withheld = s.withheld) : t.undispatched = s.undispatched := by
  rw [undispatched, hdispatcher, hwithheld, undispatched]

theorem handedOff_congr (hdispatcher : t.dispatcher = s.dispatcher)
    (hhandoff : t.handoff = s.handoff) : t.handedOff = s.handedOff := by
  rw [handedOff, hdispatcher, hhandoff, handedOff]

theorem held_congr (hworkers : t.workers = s.workers) : t.held = s.held := by
  rw [held, hworkers, held]

theorem outgoing_congr (hcollector : t.collector = s.collector)
    (houtbound : t.outbound = s.outbound) : t.outgoing = s.outgoing := by
  rw [outgoing, hcollector, houtbound, outgoing]

theorem collected_congr (hcollector : t.collector = s.collector) : t.collected = s.collected := by
  rw [collected, hcollector, collected]

/-! ### The workers together -/

/-- When a worker moves on, what it had goes and what it has comes. -/
theorem weigh_flatMap_set (f : Nat → Nat) (has : WorkerPoint → List Nat)
    (hworker : s.workers[k]? = some w) (point : WorkerPoint) :
    weigh f ((s.workers.set k { w with point }).flatMap (has ·.point)) + weigh f (has w.point) =
      weigh f (s.workers.flatMap (has ·.point)) + weigh f (has point) := by
  have hperm := (set_worker_perm hworker { w with point }).flatMap_right (has ·.point)
  have hweigh := weigh_perm (f := f) hperm
  simp only [List.flatMap_cons, weigh_append] at hweigh
  omega

theorem weigh_held_set (f : Nat → Nat) (hworker : s.workers[k]? = some w) (point : WorkerPoint)
    (ht : t.workers = s.workers.set k { w with point }) :
    weigh f t.held + weigh f w.point.held = weigh f s.held + weigh f point.held := by
  rw [held, ht]
  exact weigh_flatMap_set f WorkerPoint.held hworker point

theorem weigh_held_le (f : Nat → Nat) (hworker : s.workers[k]? = some w) :
    weigh f w.point.held ≤ weigh f s.held := by
  have hset := weigh_held_set f (t := s.setWorker k w .idle) hworker .idle rfl
  have hidle : weigh f WorkerPoint.idle.held = 0 := rfl
  omega

end Pipeline

end Fanout
