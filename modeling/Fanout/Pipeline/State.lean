import Fanout.Counters
import Fanout.Signal
import Fanout.Job
import Fanout.Pipeline.Channel
import Fanout.Pipeline.Event

/-! The state of a run: a dispatcher, a pool of workers and a collector, joined by two bounded
channels, sharing the counters and the shutdown signal, and the works that run on their own until
they end. A stage may be absent; its ends of the channels are then held from outside. -/

namespace Fanout

/-- Where the dispatcher is. -/
inductive DispatcherPoint
  | deciding
  /-- Waits for a slot of the handoff channel. -/
  | reserving (index : Nat) (packet : Packet Job)
  /-- Holds a slot, about to count the dispatch. -/
  | counting (index : Nat) (packet : Packet Job)
  /-- Counted the dispatch, about to fill the slot. -/
  | committing (packet : Packet Job)
  | ended
  /-- Ended by a panic. -/
  | crashed (message : String)
  deriving DecidableEq, Repr

structure Dispatcher where
  total : Nat
  remaining : List (Packet Job)
  point : DispatcherPoint
  /-- Packets that it sent when nobody was left to receive them. They lie in the channel until its last
  end goes, which is the dispatcher's own. -/
  stranded : List (Packet Job) := []
  deriving DecidableEq, Repr

/-- What a worker has heard of the work it waits for. -/
inductive Outcome
  | running
  | returned (packet : Packet Job)
  | panicked
  deriving DecidableEq, Repr

/-- The packet that came back. -/
def Outcome.packet? : Outcome → Option (Packet Job)
  | .returned p => some p
  | _ => none

/-- Where a worker is. -/
inductive WorkerPoint
  | idle
  /-- Waits for the execution with this ticket until the deadline. -/
  | executing (ticket task startedAt : Nat) (outcome : Outcome)
  /-- Gave a late task up, about to count that. -/
  | timedOut (task : Nat)
  /-- Learnt of a panic, about to count that. -/
  | panicked (task : Nat)
  /-- Waits for a slot of the outbound channel. -/
  | forwarding (packet : Packet Job)
  | exited
  | crashed (message : String)
  deriving DecidableEq, Repr

structure Worker where
  id : Nat
  point : WorkerPoint := .idle
  deriving DecidableEq, Repr

/-- Where the collector is. While it receives, it knows when its next tick is due. -/
inductive CollectorPoint
  | absent
  | starting
  | receiving (nextTick : Nat)
  /-- Took a packet, about to count it. -/
  | accepting (packet : Packet Job) (nextTick : Nat)
  /-- Counted a packet and saw these counters. -/
  | counted (seen : Counters) (nextTick : Nat)
  /-- Heard a tick, about to look whether the run is over. -/
  | ticking (nextTick : Nat)
  /-- About to close the signal. -/
  | closing (exit : CollectorExit)
  | pausing (exit : CollectorExit) (wake : Nat)
  | reporting (exit : CollectorExit)
  | finished (exit : CollectorExit)
  /-- Ended by a panic on its way out, without giving its results back. -/
  | crashed (exit : CollectorExit) (message : String)
  deriving DecidableEq, Repr

structure Collector where
  mode : ShutdownMode
  want : Nat
  tickIntervalMs : Nat
  trailingPause : Bool
  point : CollectorPoint
  results : List (Packet Job) := []
  deriving DecidableEq, Repr

/-- Where the caller that waits for the stages is. -/
inductive SupervisorPoint
  | absent
  | collector
  | dispatcher
  | workers
  | done
  deriving DecidableEq, Repr

structure Supervisor where
  /-- The caller runs the whole pipeline and does not only wait for one part of it. -/
  wholeRun : Bool
  point : SupervisorPoint
  /-- The panics that were seen so far. -/
  panics : StagePanics := {}
  deriving DecidableEq, Repr

/-- A work that has begun and not ended. -/
structure Execution where
  ticket : Nat
  startedAt : Nat
  packet : Packet Job
  deriving DecidableEq, Repr

/-- The ends that are held from outside the stages. -/
structure Holdings where
  transmitter : Bool := false
  handoffSender : Bool := false
  handoffReceiver : Bool := false
  outboundSender : Bool := false
  outboundReceiver : Bool := false
  deriving DecidableEq, Repr

structure Pipeline where
  now : Nat := 0
  counters : Counters
  signal : Signal
  handoff : Channel (Packet Job)
  outbound : Channel (Packet Job)
  dispatcher : Dispatcher
  workers : List Worker
  taskTimeoutMs : Nat
  collector : Collector
  supervisor : Supervisor
  /-- Workers that ended and whose end the caller has not seen yet. -/
  exits : List Nat := []
  executions : List Execution := []
  nextTicket : Nat := 0
  /-- Tasks that were released from outside. -/
  released : List Nat := []
  /-- Tasks whose work began, in this order. -/
  invoked : List Nat := []
  /-- Tasks that the dispatcher dropped uncounted. -/
  withheld : List Nat := []
  /-- Tasks that were counted and then dropped. -/
  discarded : List Nat := []
  holdings : Holdings := {}
  /-- A stage dropped a fragile packet while it was panicking, which ends the process. No step looks at
  this, and nothing of what follows takes place any more. -/
  aborted : Bool := false
  metrics : List Metric := []
  log : List Event := []
  deriving Repr

/-- The message of the panic when a stage drops a fragile packet. -/
def droppedMessage (p : Packet Job) : String :=
  "dropped " ++ toString p.task

/-- The panic that dropping packets causes, if any: the first fragile one decides. -/
def dropPanic? (packets : List (Packet Job)) : Option String :=
  (packets.find? (·.item.work.panicsWhenDropped)).map droppedMessage

/-- Dropping these packets one after the other ends the process: while the panic of a fragile one unwinds,
another one panics. -/
def dropAborts (packets : List (Packet Job)) : Bool :=
  1 < packets.countP (·.item.work.panicsWhenDropped)

/-- Where a dispatcher is that ended and dropped packets. -/
def DispatcherPoint.afterDropping (lost : List (Packet Job)) : DispatcherPoint :=
  match dropPanic? lost with
  | none => .ended
  | some message => .crashed message

def DispatcherPoint.isOver : DispatcherPoint → Bool
  | .ended | .crashed _ => true
  | _ => false

/-- Where a worker is that ended and dropped packets. -/
def WorkerPoint.afterDropping (lost : List (Packet Job)) : WorkerPoint :=
  match dropPanic? lost with
  | none => .exited
  | some message => .crashed message

def WorkerPoint.isOver : WorkerPoint → Bool
  | .exited | .crashed _ => true
  | _ => false

/-- Where a collector is that ended and dropped packets. -/
def CollectorPoint.afterDropping (exit : CollectorExit) (lost : List (Packet Job)) : CollectorPoint :=
  match dropPanic? lost with
  | none => .finished exit
  | some message => .crashed exit message

namespace Pipeline

def record (e : Event) (s : Pipeline) : Pipeline :=
  { s with log := s.log ++ [e] }

def measure (m : Metric) (s : Pipeline) : Pipeline :=
  { s with metrics := s.metrics ++ [m] }

def discard (tasks : List Nat) (s : Pipeline) : Pipeline :=
  { s with discarded := s.discarded ++ tasks }

/-- The dispatcher sent these packets to nobody. -/
def strand (lost : List (Packet Job)) (s : Pipeline) : Pipeline :=
  { s.discard (lost.map (·.task)) with
    dispatcher := { s.dispatcher with stranded := s.dispatcher.stranded ++ lost } }

def setDispatcher (point : DispatcherPoint) (s : Pipeline) : Pipeline :=
  { s with dispatcher := { s.dispatcher with point } }

def setWorker (k : Nat) (w : Worker) (point : WorkerPoint) (s : Pipeline) : Pipeline :=
  { s with workers := s.workers.set k { w with point } }

def setCollector (point : CollectorPoint) (s : Pipeline) : Pipeline :=
  { s with collector := { s.collector with point } }

def setSupervisor (point : SupervisorPoint) (s : Pipeline) : Pipeline :=
  { s with supervisor := { s.supervisor with point } }

/-- The stages of a whole run over numbered items, before anything has moved. -/
def ofRun (config : PipelineConfig) (jobs : List Job) : Pipeline :=
  { counters := .new config.want
    signal := {}
    handoff := { capacity := config.handoffCapacity, senders := 1, receivers := config.workerCount }
    outbound := { capacity := 1, senders := config.workerCount, receivers := 1 }
    dispatcher :=
      { total := jobs.length, remaining := Packet.enumerate jobs, point := .deciding }
    workers := (List.range config.workerCount).map fun id => { id }
    taskTimeoutMs := config.taskTimeoutMs
    collector :=
      { mode := config.shutdownMode, want := config.want
        tickIntervalMs := config.tickIntervalMs, trailingPause := config.trailingPause
        point := .starting }
    supervisor := { wholeRun := true, point := .collector }
    log := [.runStarted jobs.length config.workerCount config.want config.shutdownMode,
      .poolStarted config.workerCount] }

/-- The system without any stage: all ends are held from outside. -/
def bare (want handoffCapacity outboundCapacity : Nat) : Pipeline :=
  { counters := .new want
    signal := {}
    handoff := { capacity := handoffCapacity, senders := 1, receivers := 1 }
    outbound := { capacity := outboundCapacity, senders := 1, receivers := 1 }
    dispatcher := { total := 0, remaining := [], point := .ended }
    workers := []
    taskTimeoutMs := 0
    collector :=
      { mode := .gracefulDrain, want, tickIntervalMs := 1, trailingPause := false, point := .absent }
    supervisor := { wholeRun := false, point := .absent }
    holdings :=
      { transmitter := true, handoffSender := true, handoffReceiver := true,
        outboundSender := true, outboundReceiver := true } }

/-- A dispatcher alone; the receiving end of its channel is held from outside. -/
def ofDispatcher (want capacity : Nat) (packets : List (Packet Job)) : Pipeline :=
  let s := bare want capacity 1
  { s with
    dispatcher := { total := packets.length, remaining := packets, point := .deciding }
    supervisor := { wholeRun := false, point := .dispatcher }
    holdings := { s.holdings with handoffSender := false } }

/-- Workers alone, with the numbers given; both channels have their other ends outside. -/
def ofWorkers (want handoffCapacity outboundCapacity taskTimeoutMs : Nat) (ids : List Nat) :
    Pipeline :=
  let s := bare want handoffCapacity outboundCapacity
  { s with
    handoff := { s.handoff with receivers := ids.length }
    outbound := { s.outbound with senders := ids.length }
    workers := ids.map fun id => { id }
    taskTimeoutMs
    holdings := { s.holdings with handoffReceiver := false, outboundSender := false } }

/-- A pool of workers and a caller that waits for all of them. -/
def ofPool (config : PipelineConfig) (outboundCapacity : Nat) : Pipeline :=
  let s := ofWorkers config.want config.handoffCapacity outboundCapacity config.taskTimeoutMs
    (List.range config.workerCount)
  { s with
    supervisor := { wholeRun := false, point := .workers }
    log := [.poolStarted config.workerCount] }

/-- A collector alone; the sending end of its channel and one more transmitter are held from
outside. -/
def ofCollector (config : PipelineConfig) (outboundCapacity : Nat) : Pipeline :=
  let s := bare config.want 1 outboundCapacity
  { s with
    signal := { transmitters := 2 }
    collector :=
      { mode := config.shutdownMode, want := config.want
        tickIntervalMs := config.tickIntervalMs, trailingPause := config.trailingPause
        point := .starting }
    holdings := { s.holdings with outboundReceiver := false } }

end Pipeline

end Fanout
