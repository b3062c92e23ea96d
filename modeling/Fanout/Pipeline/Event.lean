import Fanout.Packet
import Fanout.Config
import Fanout.Pipeline.Panics

/-! What the stages of a run report: log events with a level, a message and named fields, and
increments of the run's metrics. -/

namespace Fanout

/-- Why the collector ended. -/
inductive CollectorExit
  /-- Every expected task arrived or was given up. -/
  | drained
  | targetReached
  /-- All workers are gone. -/
  | outboundClosed
  /-- The signal was closed from elsewhere. -/
  | shutdown
  deriving DecidableEq, Repr

def CollectorExit.label : CollectorExit → String
  | .drained => "drained"
  | .targetReached => "target_reached"
  | .outboundClosed => "outbound_closed"
  | .shutdown => "shutdown"

inductive Level
  | debug
  | info
  | warn
  | error
  deriving DecidableEq, Repr

def Level.label : Level → String
  | .debug => "debug"
  | .info => "info"
  | .warn => "warn"
  | .error => "error"

/-- The value of a field of an event. -/
inductive FieldValue
  | number (n : Nat)
  | text (s : String)
  /-- A measured time, which differs from run to run. -/
  | time
  deriving DecidableEq, Repr

inductive Event
  | runStarted (total workers want : Nat) (mode : ShutdownMode)
  | inputExhausted (total : Nat)
  | loadingStopped
  | shutdownWhileReserving (task : Nat)
  | handoffClosed
  | poolStarted (workers : Nat)
  | shutdownWhileIdle
  | handoffDrained
  | shutdownWhileRunning
  | taskTimedOut (task timeoutMs sent : Nat)
  | taskPanicked (task sent : Nat)
  | shutdownWhileForwarding (task : Nat)
  | outboundClosed (task : Nat)
  | resultDiscarded (packet : String)
  | workerExited
  | workerFinished (worker : Nat)
  | workerPanicked (worker : Nat) (message : String)
  | resultReceived (received want sent : Nat) (packet : String)
  | enoughResults (received : Nat)
  | collectionFinished (exit : CollectorExit) (mode : ShutdownMode) (received sent abandoned : Nat)
  | stagesFailed (panics : StagePanics)
  deriving DecidableEq, Repr

namespace Event

def level : Event → Level
  | .runStarted .. | .inputExhausted _ | .loadingStopped | .enoughResults _
  | .collectionFinished .. => .info
  | .taskTimedOut .. => .warn
  | .taskPanicked .. | .workerPanicked .. | .stagesFailed _ => .error
  | _ => .debug

def message : Event → String
  | .runStarted .. => "starting distribution run"
  | .inputExhausted _ => "input packets exhausted"
  | .loadingStopped => "loading stopped by the collector"
  | .shutdownWhileReserving _ => "shutdown while waiting to hand off packet"
  | .handoffClosed => "handoff channel closed, stopping dispatch"
  | .poolStarted _ => "worker pool started"
  | .shutdownWhileIdle => "shutdown received while idle"
  | .handoffDrained => "handoff channel closed and drained"
  | .shutdownWhileRunning => "shutdown received while a task was running"
  | .taskTimedOut .. => "task timed out, abandoning it"
  | .taskPanicked .. => "task panicked, abandoning it"
  | .shutdownWhileForwarding _ => "shutdown received while forwarding, dropping result"
  | .outboundClosed _ => "outbound channel closed, dropping result"
  | .resultDiscarded _ => "discarding result of an abandoned task"
  | .workerExited => "worker exited"
  | .workerFinished _ => "worker finished"
  | .workerPanicked .. => "worker task panicked"
  | .resultReceived .. => "result received"
  | .enoughResults _ => "enough results, stopped loading"
  | .collectionFinished .. => "collection finished"
  | .stagesFailed _ => "pipeline stages failed, returning collected results"

/-- The fields of an event, sorted by name. -/
def fields (around : Surroundings) : Event → List (String × FieldValue)
  | .runStarted total workers want mode =>
    [("shutdown_mode", .text mode.label), ("total", .number total), ("want", .number want),
      ("worker_count", .number workers)]
  | .inputExhausted total => [("total", .number total)]
  | .shutdownWhileReserving task => [("task_id", .number task)]
  | .poolStarted workers => [("worker_count", .number workers)]
  | .taskTimedOut task timeoutMs sent =>
    [("sent", .number sent), ("task_id", .number task), ("timeout_ms", .number timeoutMs)]
  | .taskPanicked task sent => [("sent", .number sent), ("task_id", .number task)]
  | .shutdownWhileForwarding task => [("task_id", .number task)]
  | .outboundClosed task => [("task_id", .number task)]
  | .resultDiscarded packet => [("packet", .text packet)]
  | .workerFinished worker => [("worker_id", .number worker)]
  | .workerPanicked worker message =>
    [("error", .text (joinMessage (around.workerTask worker) message))]
  | .resultReceived received want sent packet =>
    [("packet", .text packet), ("received", .number received), ("sent", .number sent),
      ("want", .number want)]
  | .enoughResults received => [("received", .number received)]
  | .collectionFinished exit mode received sent abandoned =>
    [("elapsed_ms", .time), ("exit", .text exit.label), ("received", .number received),
      ("sent", .number sent), ("shutdown_mode", .text mode.label), ("timed_out", .number abandoned)]
  | .stagesFailed panics =>
    (panics.failure? around).toList.map fun f => ("error", .text f.display)
  | _ => []

end Event

/-- One increment of a metric. -/
inductive Metric
  | dispatched
  /-- A result arrived that this worker stamped, if any did. -/
  | completed (worker : Option Nat)
  | timedOut (worker : Nat)
  | panicked (worker : Nat)
  | runDuration (mode : ShutdownMode)
  deriving DecidableEq, Repr

namespace Metric

def name : Metric → String
  | .dispatched => "distrib_tasks_dispatched_total"
  | .completed _ => "distrib_tasks_completed_total"
  | .timedOut _ => "distrib_tasks_timed_out_total"
  | .panicked _ => "distrib_tasks_panicked_total"
  | .runDuration _ => "distrib_run_duration_seconds"

/-- The name and value of a metric's label. -/
def label? : Metric → Option (String × String)
  | .dispatched => none
  | .completed worker => some ("worker_id", (worker.map toString).getD "")
  | .timedOut worker => some ("worker_id", toString worker)
  | .panicked worker => some ("worker_id", toString worker)
  | .runDuration mode => some ("shutdown_mode", mode.label)

/-- The name with its label. -/
def display (m : Metric) : String :=
  match m.label? with
  | none => m.name
  | some (key, value) => m.name ++ "\x7b" ++ key ++ "=" ++ value ++ "\x7d"

end Metric

/-- How often each name occurs, in the order of first occurrence. -/
def tally (names : List String) : List (String × Nat) :=
  names.eraseDups.map fun n => (n, names.count n)

end Fanout
