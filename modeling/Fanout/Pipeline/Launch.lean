import Fanout.Pipeline.Report

/-! How the call of a run begins. A configuration with a defect is refused with a failure. After that the
parts of the run are made one after the other, and a part that cannot be made as the configuration asks
panics. -/

namespace Fanout

/-- Why a part of a run cannot be made. -/
inductive SetupFault
  | noCapacity
  | excessiveCapacity
  | noPeriod
  deriving DecidableEq, Repr

/-- The text of the panic. -/
def SetupFault.message : SetupFault → String
  | .noCapacity => "mpsc bounded channel requires buffer > 0"
  | .excessiveCapacity =>
    "a semaphore may not have more than MAX_PERMITS permits (2305843009213693951)"
  | .noPeriod => "`period` must be non-zero."

namespace Channel

variable {α : Type}

/-- The largest number of slots that a channel can have. Three bits of a word are kept back. -/
def maxCapacity : Nat := Nat.pow 2 61 - 1

/-- Makes a channel. -/
def bounded (capacity senders receivers : Nat) : Except SetupFault (Channel α) :=
  if capacity = 0 then .error .noCapacity
  else if maxCapacity < capacity then .error .excessiveCapacity
  else .ok { capacity, senders, receivers }

end Channel

/-- Where the collector goes first. It makes its ticker only if it has something to wait for. -/
def Collector.firstPoint (now : Nat) (c : Collector) : Except SetupFault CollectorPoint :=
  if c.targetReached 0 then .ok (.closing .targetReached)
  else if c.tickIntervalMs = 0 then .error .noPeriod
  else .ok (.receiving now)

/-- Makes both channels, then the stages. The collector comes last and makes its ticker at once. -/
def Pipeline.setUp (config : PipelineConfig) (jobs : List Job) : Except SetupFault Pipeline := do
  let handoff ← Channel.bounded config.handoffCapacity 1 config.workerCount
  let outbound ← Channel.bounded 1 config.workerCount 1
  let s := { ofRun config jobs with handoff, outbound }
  let _ ← s.collector.firstPoint s.now
  return s

/-- Why the call of a run does not come to run. -/
inductive LaunchFault
  | refused (d : ConfigDefect)
  | panicked (fault : SetupFault)
  deriving DecidableEq, Repr

namespace PipelineConfig

/-- What becomes of the call of a run before any stage has moved. -/
def launch (config : PipelineConfig) (works : List Work) : Except LaunchFault Pipeline :=
  match config.defect? with
  | some d => .error (.refused d)
  | none => (Pipeline.setUp config (works.map fun work => { work })).mapError .panicked

/-- Runs works through the stages until the run is over. -/
def run (config : PipelineConfig) (works : List Work) : Except LaunchFault Pipeline :=
  (config.launch works).map fun s => (Schedule.startRun s).finish.state

end PipelineConfig

end Fanout
