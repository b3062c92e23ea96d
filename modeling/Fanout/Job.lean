/-! The work that packets carry: when it may end once it has begun, and how it ends. -/

namespace Fanout

/-- What has to happen before a work that has begun may end. -/
inductive Gate
  | none
  /-- The task is released from outside. -/
  | release
  /-- So many milliseconds pass. -/
  | delay (ms : Nat)
  deriving DecidableEq, Repr

structure Work where
  gate : Gate := .none
  /-- The work panics instead of returning. -/
  panics : Bool := false
  /-- A stage that drops the packet instead of passing it on panics. -/
  panicsWhenDropped : Bool := false
  deriving DecidableEq, Repr

namespace Work

def instant : Work := {}

def panicking : Work := { panics := true }

def hanging : Work := { gate := .release }

def hangingThenPanicking : Work := { gate := .release, panics := true }

def fragile : Work := { panicsWhenDropped := true }

def sleeping (ms : Nat) : Work := { gate := .delay ms }

end Work

/-- A work and how often it ran to its end. -/
structure Job where
  work : Work
  runs : Nat := 0
  deriving DecidableEq, Repr

/-- The job after its work returned. -/
def Job.afterRun (j : Job) : Job :=
  { j with runs := j.runs + 1 }

end Fanout
