import Fanout.Pipeline.Step

/-! A bound on the number of steps that the actors of a run can take before the clock moves. Every
packet, worker and stage counts for the steps that are still ahead of it, so that each step uses up
some of the bound. The tick interval has to be positive. -/

namespace Fanout

/-- A packet that waits in the handoff channel: its execution and what follows. -/
def handoffPotential : Nat := 7

/-- A packet that waits in the outbound channel: the three steps of its acceptance. -/
def outboundPotential : Nat := 3

def DispatcherPoint.potential : DispatcherPoint → Nat
  | .deciding => 1
  | .committing _ => handoffPotential + 2
  | .counting .. => handoffPotential + 3
  | .reserving .. => handoffPotential + 4
  | .ended | .crashed _ => 0

def Dispatcher.potential (d : Dispatcher) : Nat :=
  d.point.potential + (handoffPotential + 4) * d.remaining.length

def WorkerPoint.potential : WorkerPoint → Nat
  | .idle => 2
  | .timedOut _ | .panicked _ => 3
  | .forwarding _ => outboundPotential + 3
  | .executing .. => outboundPotential + 4
  | .exited | .crashed _ => 0

/-- Ticks that can come before the clock moves. -/
def ticksAhead (nextTick now : Nat) : Nat :=
  if now < nextTick then 0 else if nextTick + 5 < now then 1 else now - nextTick + 1

def CollectorPoint.potential (now : Nat) : CollectorPoint → Nat
  | .absent | .finished _ | .crashed .. => 0
  | .reporting _ => 1
  | .pausing .. => 2
  | .closing _ => 3
  | .receiving nextTick => 2 * ticksAhead nextTick now + 4
  | .counted _ nextTick | .ticking nextTick => 2 * ticksAhead nextTick now + 5
  | .accepting _ nextTick => 2 * ticksAhead nextTick now + 6
  | .starting => 7

def SupervisorPoint.potential : SupervisorPoint → Nat
  | .absent | .done => 0
  | .workers => 1
  | .dispatcher => 2
  | .collector => 3

/-- The bound for a whole run. -/
def Pipeline.potential (s : Pipeline) : Nat :=
  s.dispatcher.potential
    + handoffPotential * s.handoff.buffer.length
    + s.workers.foldr (·.point.potential + ·) 0
    + s.executions.length
    + outboundPotential * s.outbound.buffer.length
    + s.collector.point.potential s.now
    + s.exits.length
    + s.supervisor.point.potential

end Fanout
