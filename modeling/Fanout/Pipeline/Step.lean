import Fanout.Pipeline.State

/-! The steps of a run. A step of a stage is what it does between two looks at something that it
shares with the others, so that any order of steps is an order in which a run may go. A stage that
waits for several things looks at the shutdown signal first. `none` means that there is nothing the
stage can do now. -/

namespace Fanout

/-- Who takes a step: a stage, or a work that comes to its end. -/
inductive Actor
  | dispatcher
  | worker (index : Nat)
  | collector
  | supervisor
  | execution (ticket : Nat)
  deriving DecidableEq, Repr

/-- The configured target is met and the run must not go beyond it. -/
def Collector.targetReached (received : Nat) (c : Collector) : Bool :=
  c.mode = .abandon && c.want ≤ received

/-- The run is over by these counters. -/
def Collector.isFinished (counters : Counters) (c : Collector) : Bool :=
  (c.mode = .gracefulDrain || counters.supplyExhausted) && counters.isDrained

/-- When the next tick is due after one that was due at `due` and came at `now`. A tick that is late
by more than five milliseconds begins a new period. -/
def Collector.tickAfter (due now : Nat) (c : Collector) : Nat :=
  (if due + 5 < now then now else due) + c.tickIntervalMs

namespace Pipeline

/-- The dispatcher ends: what it still holds is dropped, and its end of the channel goes, with what lies
stranded in there. -/
def endDispatcher (held : List (Packet Job)) (s : Pipeline) : Pipeline :=
  let kept := held ++ s.dispatcher.remaining
  let lost := kept ++ s.dispatcher.stranded
  { s with
    handoff := s.handoff.dropSender
    withheld := s.withheld ++ kept.map (·.task)
    aborted := s.aborted || dropAborts lost
    dispatcher :=
      { s.dispatcher with
        remaining := []
        point := .afterDropping lost } }

def stepDispatcher (s : Pipeline) : Option Pipeline :=
  match s.dispatcher.point with
  | .deciding =>
    match s.counters.nextDispatch s.dispatcher.total with
    | (.stopped, _) => some ((s.record .loadingStopped).endDispatcher [])
    | (.exhausted, counters) =>
      some (({ s with counters }.record (.inputExhausted s.dispatcher.total)).endDispatcher [])
    | (.dispatch i, _) =>
      match s.dispatcher.remaining with
      | [] => some (s.endDispatcher [])
      | p :: rest =>
        some { s with
          dispatcher := { s.dispatcher with remaining := rest, point := .reserving i p } }
  | .reserving i p =>
    if s.signal.isShutdown then
      some ((s.record (.shutdownWhileReserving i)).endDispatcher [p])
    else if s.handoff.receivers = 0 then some ((s.record .handoffClosed).endDispatcher [p])
    else if s.handoff.hasRoom then
      some ({ s with handoff := s.handoff.reserve }.setDispatcher (.counting i p))
    else none
  | .counting i p =>
    match s.counters.tryRecordDispatch i with
    | some counters =>
      some (({ s with counters }.measure .dispatched).setDispatcher (.committing p))
    | none =>
      some (({ s with handoff := s.handoff.release }.record .loadingStopped).endDispatcher [p])
  | .committing p =>
    let lost := if s.handoff.receivers = 0 then [p] else []
    some (({ s with handoff := s.handoff.commit p }.strand lost).setDispatcher .deciding)
  | .ended | .crashed _ => none

/-- Worker `k` ends: its ends of both channels go, and with the last receiver what is left in the
handoff channel. -/
def endWorker (k : Nat) (w : Worker) (s : Pipeline) : Pipeline :=
  let lost := s.handoff.lostWithReceiver
  { (s.record .workerExited).setWorker k w (.afterDropping lost) with
    handoff := s.handoff.dropReceiver
    outbound := s.outbound.dropSender
    discarded := s.discarded ++ lost.map (·.task)
    aborted := s.aborted || dropAborts lost
    exits := s.exits ++ [k] }

/-- Worker `k` panics: its ends of both channels go while the panic unwinds. -/
def crashWorker (k : Nat) (w : Worker) (message : String) (s : Pipeline) : Pipeline :=
  let lost := s.handoff.lostWithReceiver
  { s.setWorker k w (.crashed message) with
    handoff := s.handoff.dropReceiver
    outbound := s.outbound.dropSender
    discarded := s.discarded ++ lost.map (·.task)
    aborted := s.aborted || (dropPanic? lost).isSome
    exits := s.exits ++ [k] }

/-- Worker `k` begins the work of a packet. -/
def beginWork (k : Nat) (w : Worker) (p : Packet Job) (s : Pipeline) : Pipeline :=
  { s.setWorker k w (.executing s.nextTicket p.task s.now .running) with
    executions := s.executions ++ [⟨s.nextTicket, s.now, p.stamp w.id⟩]
    nextTicket := s.nextTicket + 1
    invoked := s.invoked ++ [p.task] }

def stepWorker (k : Nat) (s : Pipeline) : Option Pipeline :=
  match s.workers[k]? with
  | none => none
  | some w =>
    match w.point with
    | .idle =>
      if s.signal.isShutdown then some ((s.record .shutdownWhileIdle).endWorker k w)
      else
        match s.handoff.take? with
        | some (p, handoff) => some ({ s with handoff }.beginWork k w p)
        | none =>
          if s.handoff.senders = 0 then some ((s.record .handoffDrained).endWorker k w) else none
    | .executing _ task startedAt outcome =>
      if s.signal.isShutdown then
        match dropPanic? outcome.packet?.toList with
        | some message => some ((s.discard [task]).crashWorker k w message)
        | none => some (((s.discard [task]).record .shutdownWhileRunning).endWorker k w)
      else
        match outcome with
        | .returned p => some (s.setWorker k w (.forwarding p))
        | .panicked => some (s.setWorker k w (.panicked task))
        | .running =>
          if startedAt + s.taskTimeoutMs ≤ s.now then some (s.setWorker k w (.timedOut task))
          else none
    | .timedOut task =>
      let counters := s.counters.recordAbandoned
      some ((({ s with counters }.measure (.timedOut w.id)).record
        (.taskTimedOut task s.taskTimeoutMs counters.sent)).setWorker k w .idle)
    | .panicked task =>
      let counters := s.counters.recordAbandoned
      some ((({ s with counters }.measure (.panicked w.id)).record
        (.taskPanicked task counters.sent)).setWorker k w .idle)
    | .forwarding p =>
      if s.signal.isShutdown then
        match dropPanic? [p] with
        | some message => some ((s.discard [p.task]).crashWorker k w message)
        | none =>
          some (((s.discard [p.task]).record (.shutdownWhileForwarding p.task)).endWorker k w)
      else if s.outbound.receivers = 0 then
        let s := (s.discard [p.task]).record (.outboundClosed p.task)
        match dropPanic? [p] with
        | some message => some (s.crashWorker k w message)
        | none => some (s.endWorker k w)
      else if s.outbound.hasRoom then
        some ({ s with outbound := s.outbound.push p }.setWorker k w .idle)
      else none
    | .exited | .crashed _ => none

/-- Ends the collection: its ends of the channel and of the signal go, and with its end of the channel
what was not received. -/
def endCollector (exit : CollectorExit) (s : Pipeline) : Pipeline :=
  let c := s.counters
  let lost := s.outbound.lostWithReceiver
  { (s.record (.collectionFinished exit s.collector.mode c.received c.sent c.abandoned)).setCollector
      (.afterDropping exit lost) with
    outbound := s.outbound.dropReceiver
    discarded := s.discarded ++ lost.map (·.task)
    aborted := s.aborted || dropAborts lost
    signal := s.signal.dropTransmitter }

/-- Counts an arrival and keeps the packet. -/
def accept (p : Packet Job) (nextTick : Nat) (s : Pipeline) : Pipeline :=
  let counters := s.counters.recordReceived
  { ({ s with counters }.measure (.completed p.worker)).record
      (.resultReceived counters.received counters.want counters.sent p.display) with
    collector :=
      { s.collector with
        results := s.collector.results ++ [p]
        point := .counted counters nextTick } }

/-- Stops the loading if the counters that were seen meet the target. -/
def stopWhenEnough (seen : Counters) (s : Pipeline) : Pipeline :=
  if seen.want ≤ seen.received then
    let (first, counters) := s.counters.stopLoading
    let s := { s with counters }
    if first && !seen.supplyExhausted then s.record (.enoughResults seen.received) else s
  else s

def stepCollector (s : Pipeline) : Option Pipeline :=
  let c := s.collector
  match c.point with
  | .starting =>
    if c.targetReached 0 then
      some ({ s with counters := s.counters.stopLoading.2 }.setCollector (.closing .targetReached))
    else some (s.setCollector (.receiving s.now))
  | .receiving nextTick =>
    if s.signal.isShutdown then some (s.setCollector (.closing .shutdown))
    else
      match s.outbound.take? with
      | some (p, outbound) => some ({ s with outbound }.setCollector (.accepting p nextTick))
      | none =>
        if s.outbound.senders = 0 then some (s.setCollector (.closing .outboundClosed))
        else if nextTick ≤ s.now then
          some (s.setCollector (.ticking (c.tickAfter nextTick s.now)))
        else none
  | .ticking nextTick =>
    if c.isFinished s.counters then some (s.setCollector (.closing .drained))
    else some (s.setCollector (.receiving nextTick))
  | .accepting p nextTick => some (s.accept p nextTick)
  | .counted seen nextTick =>
    let s := s.stopWhenEnough seen
    if c.targetReached seen.received then
      some (s.setCollector (.closing .targetReached))
    else some (s.setCollector (.receiving nextTick))
  | .closing exit =>
    let s := { s with signal := s.signal.shutdown.2 }
    if c.trailingPause then
      some (s.setCollector (.pausing exit (s.now + PipelineConfig.trailingPauseMs)))
    else some (s.setCollector (.reporting exit))
  | .pausing exit wake => if wake ≤ s.now then some (s.setCollector (.reporting exit)) else none
  | .reporting exit => some (s.endCollector exit)
  | .finished _ | .crashed .. | .absent => none

/-- The caller has seen the end of every stage. A whole run reports its failures and how long it
took. -/
def endSupervisor (s : Pipeline) : Pipeline :=
  let s :=
    if s.supervisor.wholeRun then
      let panics := s.supervisor.panics
      let s := if panics = {} then s else s.record (.stagesFailed panics)
      s.measure (.runDuration s.collector.mode)
    else s
  s.setSupervisor .done

/-- What follows when the dispatcher has ended. -/
def afterDispatcher (s : Pipeline) : Pipeline :=
  if s.supervisor.wholeRun then s.setSupervisor .workers else s.setSupervisor .done

/-- All workers have ended. -/
def allWorkersEnded (s : Pipeline) : Bool :=
  s.workers.all (·.point.isOver)

/-- The caller sees the end of worker `k`. -/
def joinWorker (k : Nat) (s : Pipeline) : Pipeline :=
  match s.workers[k]? with
  | some ⟨_, .crashed message⟩ =>
    let panics := s.supervisor.panics
    { s.record (.workerPanicked k message) with
      supervisor :=
        { s.supervisor with panics := { panics with workers := panics.workers ++ [(k, message)] } } }
  | some w => s.record (.workerFinished w.id)
  | none => s

def stepSupervisor (s : Pipeline) : Option Pipeline :=
  match s.supervisor.point with
  | .collector =>
    -- A collector that panics takes the caller along.
    match s.collector.point with
    | .finished _ => some (s.setSupervisor .dispatcher)
    | _ => none
  | .dispatcher =>
    match s.dispatcher.point with
    | .ended => some s.afterDispatcher
    | .crashed message =>
      let panics := { s.supervisor.panics with dispatcher := some message }
      some { s with supervisor := { s.supervisor with panics } }.afterDispatcher
    | _ => none
  | .workers =>
    match s.exits with
    | k :: rest => some ({ s with exits := rest }.joinWorker k)
    | [] => if s.allWorkersEnded then some s.endSupervisor else none
  | .done | .absent => none

/-- A work that has begun may end now. -/
def mayEnd (e : Execution) (s : Pipeline) : Bool :=
  match e.packet.item.work.gate with
  | .none => true
  | .release => s.released.contains e.packet.task
  | .delay ms => e.startedAt + ms ≤ s.now

/-- The worker that waits for an execution, with its place in the pool. -/
def waiting? (ticket : Nat) (s : Pipeline) : Option (Nat × Worker) :=
  (s.workers.zipIdx.find? fun (w, _) => match w.point with
    | .executing t _ _ .running => t == ticket
    | _ => false).map fun (w, k) => (k, w)

/-- What the end of an execution tells the worker that waits for it. -/
def outcomeOf (e : Execution) : Outcome :=
  if e.packet.item.work.panics then .panicked else .returned (e.packet.mapItem Job.afterRun)

/-- Tells the outcome of an execution to the worker that waits for it. -/
def deliver (e : Execution) (k : Nat) (w : Worker) (s : Pipeline) : Pipeline :=
  match w.point with
  | .executing ticket task startedAt _ =>
    s.setWorker k w (.executing ticket task startedAt (outcomeOf e))
  | _ => s

/-- The work of an execution ends. Where no worker waits for it any more, a result is discarded and
a panic goes unseen. -/
def stepExecution (ticket : Nat) (s : Pipeline) : Option Pipeline :=
  match s.executions.find? (·.ticket == ticket) with
  | none => none
  | some e =>
    if s.mayEnd e then
      let s := { s with executions := s.executions.eraseP (·.ticket == ticket) }
      match s.waiting? ticket, outcomeOf e with
      | some (k, w), _ => some (s.deliver e k w)
      | none, .returned p => some (s.record (.resultDiscarded p.display))
      | none, _ => some s
    else none

/-- One step of an actor, if it can take one. -/
def step : Actor → Pipeline → Option Pipeline
  | .dispatcher => stepDispatcher
  | .worker k => stepWorker k
  | .collector => stepCollector
  | .supervisor => stepSupervisor
  | .execution ticket => stepExecution ticket

/-- Moves the clock. -/
def advance (ms : Nat) (s : Pipeline) : Pipeline :=
  { s with now := s.now + ms }

/-- Lets a task go that waits to be released, now or when it begins. -/
def release (task : Nat) (s : Pipeline) : Pipeline :=
  { s with released := s.released ++ [task] }

end Pipeline

end Fanout
