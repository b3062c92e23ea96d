import Fanout.SocketAddress

/-! Configurations of a run, of a synthetic workload and of the runner, with their defaults and the
rules that a usable configuration keeps. -/

namespace Fanout

/-- What the collector does once enough results have arrived. -/
inductive ShutdownMode
  /-- Stop loading, then wait for the tasks in flight. -/
  | gracefulDrain
  /-- Close the run the moment the target is reached. -/
  | abandon
  deriving DecidableEq, Repr, Inhabited

def ShutdownMode.label : ShutdownMode → String
  | .gracefulDrain => "graceful_drain"
  | .abandon => "abandon"

def ShutdownMode.all : List ShutdownMode :=
  [.gracefulDrain, .abandon]

structure PipelineConfig where
  workerCount : Nat := 6
  /-- Number of results after which the run winds down. -/
  want : Nat := 10
  taskTimeoutMs : Nat := 15
  shutdownMode : ShutdownMode := .gracefulDrain
  trailingPause : Bool := false
  /-- How often the collector looks whether the run is over. -/
  tickIntervalMs : Nat := 10
  handoffCapacity : Nat := 1
  deriving DecidableEq, Repr, Inhabited

structure WorkloadConfig where
  taskCount : Nat := 20
  minTaskMs : Nat := 0
  maxTaskMs : Nat := 0
  deriving DecidableEq, Repr, Inhabited

structure RunnerConfig where
  pipeline : PipelineConfig := {}
  workload : WorkloadConfig := {}
  /-- Where the metrics are served, if they are. -/
  metricsAddress : Option SocketAddress := none
  deriving DecidableEq, Repr, Inhabited

/-- Why a configuration that can be read cannot be used. -/
inductive ConfigDefect
  | zeroWorkers
  | zeroTimeout
  | zeroTick
  | zeroCapacity
  | invertedRange (minMs maxMs : Nat)
  deriving DecidableEq, Repr

namespace ConfigDefect

def label : ConfigDefect → String
  | .zeroWorkers => "WorkerCountZero"
  | .zeroTimeout => "TaskTimeoutZero"
  | .zeroTick => "TickIntervalZero"
  | .zeroCapacity => "HandoffCapacityZero"
  | .invertedRange .. => "InvalidTaskDurationRange"

def message : ConfigDefect → String
  | .zeroWorkers => "`worker_count` cannot be zero"
  | .zeroTimeout => "`task_timeout_ms` cannot be zero"
  | .zeroTick => "`tick_interval_ms` cannot be zero"
  | .zeroCapacity => "`handoff_capacity` cannot be zero"
  | .invertedRange a b =>
    "`min_task_ms` (" ++ toString a ++ ") is greater than `max_task_ms` (" ++ toString b ++ ")"

end ConfigDefect

namespace PipelineConfig

/-- The first rule that is broken. -/
def defect? (c : PipelineConfig) : Option ConfigDefect :=
  if c.workerCount = 0 then some .zeroWorkers
  else if c.taskTimeoutMs = 0 then some .zeroTimeout
  else if c.tickIntervalMs = 0 then some .zeroTick
  else if c.handoffCapacity = 0 then some .zeroCapacity
  else none

theorem defect?_eq_none_iff {c : PipelineConfig} :
    c.defect? = none ↔ c.workerCount ≠ 0 ∧ c.taskTimeoutMs ≠ 0 ∧ c.tickIntervalMs ≠ 0 ∧
      c.handoffCapacity ≠ 0 := by
  unfold defect?
  repeat' split
  all_goals simp [*]

/-- The collector waits for the tasks in flight. -/
def collectsRemainder (c : PipelineConfig) : Bool :=
  c.shutdownMode = .gracefulDrain

/-- How long the pause after a run lasts. -/
def trailingPauseMs : Nat := 60

end PipelineConfig

def WorkloadConfig.defect? (c : WorkloadConfig) : Option ConfigDefect :=
  if c.maxTaskMs < c.minTaskMs then some (.invertedRange c.minTaskMs c.maxTaskMs) else none

theorem WorkloadConfig.defect?_eq_none_iff {c : WorkloadConfig} :
    c.defect? = none ↔ c.minTaskMs ≤ c.maxTaskMs := by
  unfold defect?
  split
  next hlt => exact iff_of_false nofun (Nat.not_le.mpr hlt)
  next hle => exact iff_of_true rfl (Nat.not_lt.mp hle)

def RunnerConfig.defect? (c : RunnerConfig) : Option ConfigDefect :=
  c.pipeline.defect?.or c.workload.defect?

end Fanout
