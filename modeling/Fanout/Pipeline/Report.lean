import Fanout.Pipeline.Clock

/-! What the caller of a run, or of one of its stages, gets in the end. -/

namespace Fanout

/-- The failure that a defective configuration is reported as. -/
def ConfigDefect.failure (d : ConfigDefect) (origin : Origin) : Failure :=
  .single .configuration "Invalid distribution configuration" (some d.message) (some d.message) origin

/-- A run that has to block its thread was begun where threads must not be blocked. -/
def Failure.nestedBlocking (origin : Origin) : Failure :=
  .single .invalidState "Blocking run started inside an async runtime"
    (some "use `Distributor::run` instead") none origin

/-- How one worker ended. -/
inductive WorkerEnding
  | returned (id : Nat)
  | panicked
  deriving DecidableEq, Repr

/-- What the collector gives back. -/
structure Collection where
  packets : List (Packet Job)
  exit : CollectorExit
  deriving Repr

/-- What a whole run gives back. -/
structure RunReport where
  /-- In the order of arrival. -/
  packets : List (Packet Job)
  counters : Counters
  exit : CollectorExit
  deriving Repr

namespace Pipeline

/-- How the wait for the dispatcher ended, if it has. -/
def dispatcherEnding? (around : Surroundings) (s : Pipeline) : Option (Except Failure Unit) :=
  if s.isOver then
    some (match s.supervisor.panics.dispatcherFailure? around with
      | some f => .error f
      | none => .ok ())
  else none

/-- How the wait for all workers ended, if it has. -/
def poolEnding? (around : Surroundings) (s : Pipeline) : Option (Except Failure Unit) :=
  if s.isOver then
    some (match s.supervisor.panics.poolFailure? around with
      | some f => .error f
      | none => .ok ())
  else none

/-- How the worker in this place ended, if it has. -/
def workerEnding? (k : Nat) (s : Pipeline) : Option WorkerEnding :=
  match s.workers[k]? with
  | some ⟨id, .exited⟩ => some (.returned id)
  | some ⟨_, .crashed _⟩ => some .panicked
  | _ => none

def collection? (s : Pipeline) : Option Collection :=
  match s.collector.point with
  | .finished exit => some ⟨s.collector.results, exit⟩
  | _ => none

def runReport? (s : Pipeline) : Option RunReport :=
  if s.isOver then s.collection?.map fun c => ⟨c.packets, s.counters, c.exit⟩ else none

/-- How the call of a whole run ended, if it has: with a report, or with the panic of the collector, which
runs in the task of the caller. -/
def runEnding? (s : Pipeline) : Option (Except String RunReport) :=
  match s.collector.point with
  | .crashed _ message => some (.error message)
  | _ => s.runReport?.map .ok

/-- The outcome of a dispatcher whose task is taken away while it waits. -/
def cancelledDispatcherEnding (around : Surroundings) (s : Pipeline) : Except Failure Unit :=
  (s.dispatcherEnding? around).getD (.error (.dispatcherCancelled around))

/-- Number of works that ran to their end without a panic. -/
def completedRuns (works : List Work) (s : Pipeline) : Nat :=
  (s.invoked.filter fun task =>
    works[task]?.all (!·.panics) && !s.executions.any (·.packet.task = task)).length

end Pipeline

end Fanout
