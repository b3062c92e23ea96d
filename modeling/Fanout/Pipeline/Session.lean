import Fanout.Pipeline.Schedule

/-! A run that is watched and driven from outside. Calls are made while no stage runs: they use the
counters, the signal and the clock, and the ends of the channels that are held outside. After a
turn of calls everything runs until nothing can go on. -/

namespace Fanout

inductive Call
  | next (total : Nat)
  | record (index : Nat)
  | abandon
  | received
  | stop
  | snapshot
  | shutdown
  | dropTransmitter
  | isShutdown
  | advance (ms : Nat)
  | release (task : Nat)
  /-- Takes a packet out of the handoff channel. -/
  | takeHandoff
  | dropHandoffReceiver
  /-- Puts a packet into the handoff channel; `counted` asks to count its dispatch before. -/
  | send (counted : Bool) (task : Nat) (work : Work)
  | closeHandoff
  /-- Puts a packet that no worker stamped into the outbound channel. -/
  | arrive (task : Nat)
  | closeOutbound
  | takeOutbound
  | dropOutboundReceiver
  deriving DecidableEq, Repr

inductive SendStatus
  | sent
  | full
  | closed
  | noSender
  deriving DecidableEq, Repr

def SendStatus.label : SendStatus → String
  | .sent => "ok"
  | .full => "full"
  | .closed => "closed"
  | .noSender => "no sender"

inductive Receipt
  | packet (p : Packet Job)
  | empty
  | closed
  | noReceiver
  deriving DecidableEq, Repr

inductive Reply
  | done
  | decision (d : Decision)
  | flag (b : Bool)
  /-- The question cannot be put, because the end that it goes through was dropped. -/
  | unavailable
  | remaining (sent : Nat)
  | counters (c : Counters)
  | sent (recorded : Option Bool) (status : SendStatus)
  | arrived (status : SendStatus)
  | receipt (r : Receipt)
  deriving DecidableEq, Repr

namespace Channel

variable {α : Type}

/-- Tries to put something into a channel without waiting; `held` tells whether there is a sender
to do it with. -/
def trySend (held : Bool) (x : α) (c : Channel α) : SendStatus × Channel α :=
  if !held then (.noSender, c)
  else if c.receivers = 0 then (.closed, c)
  else if c.hasRoom then (.sent, c.push x)
  else (.full, c)

end Channel

/-- Tries to take a packet out of a channel without waiting; `held` tells whether there is a
receiver to do it with. -/
def Receipt.ofChannel (held : Bool) (c : Channel (Packet Job)) : Receipt × Channel (Packet Job) :=
  if !held then (.noReceiver, c)
  else match c.take? with
    | some (p, c) => (.packet p, c)
    | none => (if c.senders = 0 then .closed else .empty, c)

namespace Pipeline

/-- The work of this task has begun and waits to be released. -/
def isHanging (task : Nat) (s : Pipeline) : Bool :=
  !s.released.contains task
    && s.executions.any fun e => e.packet.task = task && e.packet.item.work.gate = .release

/-- Carries out one call. -/
def call (s : Pipeline) : Call → Reply × Pipeline
  | .next total =>
    let (d, counters) := s.counters.nextDispatch total
    (.decision d, { s with counters })
  | .record i =>
    match s.counters.tryRecordDispatch i with
    | some counters => (.flag true, { s with counters })
    | none => (.flag false, s)
  | .abandon =>
    let counters := s.counters.recordAbandoned
    (.remaining counters.sent, { s with counters })
  | .received =>
    let counters := s.counters.recordReceived
    (.counters counters, { s with counters })
  | .stop =>
    let (first, counters) := s.counters.stopLoading
    (.flag first, { s with counters })
  | .snapshot => (.counters s.counters, s)
  | .shutdown =>
    if s.holdings.transmitter then
      let (first, signal) := s.signal.shutdown
      (.flag first, { s with signal })
    else (.unavailable, s)
  | .dropTransmitter =>
    if s.holdings.transmitter then
      (.flag true,
        { s with
          signal := s.signal.dropTransmitter
          holdings := { s.holdings with transmitter := false } })
    else (.flag false, s)
  | .isShutdown =>
    (if s.holdings.transmitter then .flag s.signal.requested else .unavailable, s)
  | .advance ms => (.done, s.advance ms)
  | .release task => (.flag (s.isHanging task), s.release task)
  | .takeHandoff =>
    let (r, handoff) := Receipt.ofChannel s.holdings.handoffReceiver s.handoff
    (.receipt r, { s with handoff })
  | .dropHandoffReceiver =>
    if s.holdings.handoffReceiver then
      (.flag true,
        { s with
          handoff := s.handoff.dropReceiver
          holdings := { s.holdings with handoffReceiver := false } })
    else (.flag false, s)
  | .send counted task work =>
    let recorded := if counted then s.counters.tryRecordDispatch task else none
    let (status, handoff) :=
      s.handoff.trySend s.holdings.handoffSender (Packet.new task { work })
    (.sent (if counted then some recorded.isSome else none) status,
      { s with counters := recorded.getD s.counters, handoff })
  | .closeHandoff =>
    if s.holdings.handoffSender then
      (.flag true,
        { s with
          handoff := s.handoff.dropSender
          holdings := { s.holdings with handoffSender := false } })
    else (.flag false, s)
  | .arrive task =>
    let (status, outbound) :=
      s.outbound.trySend s.holdings.outboundSender (Packet.new task { work := .instant })
    (.arrived status, { s with outbound })
  | .closeOutbound =>
    if s.holdings.outboundSender then
      (.flag true,
        { s with
          outbound := s.outbound.dropSender
          holdings := { s.holdings with outboundSender := false } })
    else (.flag false, s)
  | .takeOutbound =>
    let (r, outbound) := Receipt.ofChannel s.holdings.outboundReceiver s.outbound
    (.receipt r, { s with outbound })
  | .dropOutboundReceiver =>
    if s.holdings.outboundReceiver then
      (.flag true,
        { s with
          outbound := s.outbound.dropReceiver
          holdings := { s.holdings with outboundReceiver := false } })
    else (.flag false, s)

/-- Carries out calls one after the other. -/
def calls : List Call → Pipeline → List Reply × Pipeline
  | [], s => ([], s)
  | c :: cs, s =>
    let (reply, s) := s.call c
    let (replies, s) := calls cs s
    (reply :: replies, s)

end Pipeline

/-- What happened in one turn. -/
structure Turn where
  replies : List Reply
  /-- Tasks whose work began, in this order. -/
  started : List Nat
  events : List Event
  /-- The state after the turn. -/
  after : Pipeline
  deriving Repr

namespace Schedule

/-- What happened between two states. -/
def turnBetween (replies : List Reply) (startedBefore loggedBefore : Nat) (after : Pipeline) : Turn :=
  { replies
    started := after.invoked.drop startedBefore
    events := after.log.drop loggedBefore
    after }

/-- The first turn: everything runs until nothing can go on. -/
def firstTurn (x : Schedule) : Turn × Schedule :=
  let x := x.settle
  (turnBetween [] 0 0 x.state, x)

/-- Makes calls, then lets everything run until nothing can go on. -/
def turn (calls : List Call) (x : Schedule) : Turn × Schedule :=
  let before := x.state
  let (replies, s) := before.calls calls
  let x := x.resume s
  (turnBetween replies before.invoked.length before.log.length x.state, x)

/-- The turns that follow one another, one for each list of calls. -/
def turns : List (List Call) → Schedule → List Turn × Schedule
  | [], x => ([], x)
  | calls :: rest, x =>
    let (t, x) := x.turn calls
    let (ts, x) := turns rest x
    (t :: ts, x)

/-- A whole session: the first turn and those of the calls, with the final state. -/
def session (x : Schedule) (calls : List (List Call)) : List Turn × Pipeline :=
  let (t, x) := x.firstTurn
  let (ts, x) := turns calls x
  (t :: ts, x.state)

end Schedule

end Fanout
