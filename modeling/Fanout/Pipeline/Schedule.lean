import Fanout.Pipeline.Potential

/-! One order in which the actors of a run take their steps: an actor that has its turn goes on
until it is blocked, and actors that become able to move wait in line for their turn. Idle workers
take packets in the order in which they became idle, and workers that wait for a slot of the
outbound channel get it in the order of their coming. Works end when no stage can go on. -/

namespace Fanout

structure Schedule where
  state : Pipeline
  /-- Actors that wait for their turn; the first one has it. -/
  ready : List Actor
  /-- Idle workers, the one that waits longest first. -/
  idle : List Nat := []
  /-- Workers that wait for a slot of the outbound channel, the one that waits longest first. -/
  forwarding : List Nat := []
  deriving Repr

def WorkerPoint.isIdle : WorkerPoint → Bool
  | .idle => true
  | _ => false

def WorkerPoint.isForwarding : WorkerPoint → Bool
  | .forwarding _ => true
  | _ => false

namespace Schedule

/-- Places of the workers that are at such a point. -/
def workersAt (present : WorkerPoint → Bool) (s : Pipeline) : List Nat :=
  (s.workers.zipIdx.filter fun (w, _) => present w.point).map (·.2)

/-- Brings a waiting line up to date: those that went on leave it, newcomers join at its end. -/
def updateLine (present : WorkerPoint → Bool) (s : Pipeline) (line : List Nat) : List Nat :=
  let here := workersAt present s
  line.filter here.contains ++ here.filter (!line.contains ·)

/-- Slots of the outbound channel that nobody holds. -/
def freeSlots (s : Pipeline) : Nat :=
  s.outbound.capacity - s.outbound.buffer.length - s.outbound.reserved

/-- It is this worker's turn in the waiting line where it stands, or the line no longer matters. -/
def mayPass (x : Schedule) (k : Nat) : Bool :=
  let s := x.state
  s.signal.isShutdown || match s.workers[k]? with
    | some ⟨_, .idle⟩ => x.idle.head? = some k
    | some ⟨_, .forwarding _⟩ =>
      s.outbound.receivers = 0 || (x.forwarding.take (freeSlots s)).contains k
    | _ => true

/-- An actor can take a step. -/
def isEnabled (x : Schedule) (a : Actor) : Bool :=
  (match a with
    | .worker k => x.mayPass k
    | _ => true)
  && (x.state.step a).isSome

/-- The stages in the order in which they are woken. -/
def stages (s : Pipeline) : List Actor :=
  .collector :: .dispatcher :: ((List.range s.workers.length).map .worker ++ [.supervisor])

/-- Goes on with a changed system: all stages that can move now and do not wait for a turn yet join
the end of the line. -/
def update (s : Pipeline) (x : Schedule) : Schedule :=
  let x :=
    { x with
      state := s
      idle := updateLine WorkerPoint.isIdle s x.idle
      forwarding := updateLine WorkerPoint.isForwarding s x.forwarding }
  { x with ready := x.ready ++ (stages s).filter fun a => !x.ready.contains a && x.isEnabled a }

/-- One step of an actor. -/
def act (a : Actor) (x : Schedule) : Schedule :=
  match x.state.step a with
  | some s => x.update s
  | none => x

/-- The execution that ends next when no stage can go on. -/
def nextEnding? (s : Pipeline) : Option Nat :=
  (s.executions.find? fun e => s.mayEnd e).map (·.ticket)

/-- Lets everything run until nothing can go on, for at most so many steps. -/
def settleWithin : Nat → Schedule → Schedule
  | 0, x => x
  | fuel + 1, x =>
    match x.ready.dropWhile fun a => !x.isEnabled a with
    | a :: rest => settleWithin fuel ({ x with ready := a :: rest }.act a)
    | [] =>
      let x := { x with ready := [] }
      match nextEnding? x.state with
      | some ticket => settleWithin fuel (x.act (.execution ticket))
      | none => x

/-- Lets everything run until nothing can go on. -/
def settle (x : Schedule) : Schedule :=
  settleWithin (x.state.potential + 1) x

/-- A run whose stages get their first turns in the given order. -/
def start (s : Pipeline) (order : List Actor) : Schedule :=
  update s { state := s, ready := order }

/-- The workers in the order of their numbers. -/
def workerOrder (s : Pipeline) : List Actor :=
  (List.range s.workers.length).map .worker

/-- A run under way: the caller's own stage begins, then the workers, then the dispatcher. -/
def startRun (s : Pipeline) : Schedule :=
  start s (.collector :: (workerOrder s ++ [.dispatcher, .supervisor]))

/-- The outside changed the system while no stage ran; then everything runs on. -/
def resume (s : Pipeline) (x : Schedule) : Schedule :=
  (x.update s).settle

end Schedule

end Fanout
