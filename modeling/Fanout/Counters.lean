/-! The counters that the stages of one run share, and the questions the stages ask of them. The
dispatcher moves the cursor and counts a dispatch in one operation; a worker that gives a task up
takes it back out of `sent`; the collector counts arrivals and stops the loading. When the supply
runs out the target drops to zero, which tells the collector that nothing more will come. -/

namespace Fanout

/-- Position of the dispatcher in the sequence of tasks. -/
inductive Cursor
  | loading (next : Nat)
  | stopped
  deriving DecidableEq, Repr

/-- What the dispatcher does next. -/
inductive Decision
  | dispatch (index : Nat)
  | exhausted
  | stopped
  deriving DecidableEq, Repr

structure Counters where
  cursor : Cursor := .loading 0
  /-- Tasks handed off and still expected to arrive. -/
  sent : Nat := 0
  /-- Results accepted by the collector. -/
  received : Nat := 0
  /-- The target, or zero once the supply is exhausted. -/
  want : Nat
  /-- Tasks given up by their worker. -/
  abandoned : Nat := 0
  supplyExhausted : Bool := false
  deriving DecidableEq, Repr

namespace Counters

/-- The counters of a run that has not begun. -/
def new (want : Nat) : Counters :=
  { want := want }

/-- Every expected task has arrived and the target is met. -/
def isDrained (c : Counters) : Bool :=
  c.received ≥ c.want && c.received ≥ c.sent

/-- Number of tasks that left the dispatcher. -/
def dispatched (c : Counters) : Nat :=
  c.sent + c.abandoned

/-- The number of dispatched tasks where it fits a 64-bit word. -/
def dispatched? (c : Counters) : Option Nat :=
  if c.dispatched < Nat.pow 2 64 then some c.dispatched else none

/-- Decides what follows when there are `total` tasks. Running out of them marks the supply as
exhausted and drops the target. -/
def nextDispatch (total : Nat) (c : Counters) : Decision × Counters :=
  match c.cursor with
  | .stopped => (.stopped, c)
  | .loading i =>
    if total ≤ i then (.exhausted, { c with want := 0, supplyExhausted := true })
    else (.dispatch i, c)

/-- Counts the hand-off of task `i`, unless the cursor is elsewhere or loading was stopped. -/
def tryRecordDispatch (i : Nat) (c : Counters) : Option Counters :=
  if c.cursor = .loading i then some { c with cursor := .loading (i + 1), sent := c.sent + 1 }
  else none

/-- Takes back a dispatch whose task will never arrive. -/
def recordAbandoned (c : Counters) : Counters :=
  { c with sent := c.sent - 1, abandoned := c.abandoned + 1 }

/-- Counts one arrival. -/
def recordReceived (c : Counters) : Counters :=
  { c with received := c.received + 1 }

def isStopped (c : Counters) : Bool :=
  c.cursor = .stopped

/-- Asks the dispatcher to stop; the flag tells whether this call stopped it. -/
def stopLoading (c : Counters) : Bool × Counters :=
  (!c.isStopped, { c with cursor := .stopped })

end Counters

end Fanout
