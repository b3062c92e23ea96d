import Fanout.Failure

/-! Stages that ended by a panic, and the failures that the caller makes of them. -/

namespace Fanout

/-- What the failures of a run tell beside the panics: where they are raised, and the numbers of the tasks
that panicked, as they are written. -/
structure Surroundings where
  /-- The wait for the dispatcher. -/
  dispatcherWait : Origin
  /-- The wait for one worker after the other. -/
  workerWait : Origin
  /-- Where the failures of the workers are put together. -/
  poolPlace : String
  /-- Where the failures of all stages are put together. -/
  runPlace : String
  dispatcherTask : String
  workerTask : Nat → String

/-- Panics of stages. -/
structure StagePanics where
  /-- The message of the dispatcher's. -/
  dispatcher : Option String := none
  /-- The places of the workers that panicked, with the messages, in the order in which they were seen. -/
  workers : List (Nat × String) := []
  deriving DecidableEq, Repr

/-- How a task that panicked is described. -/
def joinMessage (task message : String) : String :=
  "task " ++ task ++ " panicked with message \"" ++ message ++ "\""

namespace Failure

def dispatcherPanicked (around : Surroundings) (message : String) : Failure :=
  .single .workerPanic "Dispatcher panicked" (some (joinMessage around.dispatcherTask message)) none
    around.dispatcherWait

/-- The dispatcher's task was taken away before it ended. -/
def dispatcherCancelled (around : Surroundings) : Failure :=
  .single .invalidState "Dispatcher was cancelled"
    (some ("task " ++ around.dispatcherTask ++ " was cancelled")) none around.dispatcherWait

def workerPanicked (around : Surroundings) (worker : Nat) (message : String) : Failure :=
  .single .workerPanic "Worker panicked" (some (joinMessage (around.workerTask worker) message)) none
    around.workerWait

end Failure

namespace StagePanics

def dispatcherFailure? (around : Surroundings) (p : StagePanics) : Option Failure :=
  p.dispatcher.map (.dispatcherPanicked around)

/-- The failures of the workers as one. -/
def poolFailure? (around : Surroundings) (p : StagePanics) : Option Failure :=
  if p.workers.isEmpty then none
  else some (.ofList (p.workers.map fun (worker, message) => .workerPanicked around worker message)
    around.poolPlace)

/-- The failures of all stages as one. -/
def failure? (around : Surroundings) (p : StagePanics) : Option Failure :=
  match (p.dispatcherFailure? around).toList ++ (p.poolFailure? around).toList with
  | [] => none
  | fs => some (.ofList fs around.runPlace)

end StagePanics

end Fanout
