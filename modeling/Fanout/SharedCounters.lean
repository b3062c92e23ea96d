import Fanout.Counters

/-! The counters of a run as the stages have them in common. Every stage holds a handle, handles are cloned,
and all of them lead to the same counters. -/

namespace Fanout

/-- Counters with the number of handles ever made. -/
structure SharedCounters where
  state : Counters
  handles : Nat := 1
  deriving DecidableEq, Repr

namespace SharedCounters

inductive Operation
  | next (total : Nat)
  | record (index : Nat)
  | abandon
  | received
  | stop
  | snapshot
  | clone
  deriving DecidableEq, Repr

inductive Answer
  | decision (d : Decision)
  | recorded (counted : Bool)
  | remaining (sent : Nat)
  | counters (c : Counters)
  | stopped (first : Bool)
  | handle (number : Nat)
  | noSuchHandle
  deriving DecidableEq, Repr

/-- The counters of a run that has not begun, with one handle. -/
def new (want : Nat) : SharedCounters :=
  { state := .new want }

/-- Carries out an operation through a handle. -/
def apply (handle : Nat) (o : Operation) (s : SharedCounters) : Answer × SharedCounters :=
  if s.handles ≤ handle then (.noSuchHandle, s)
  else
    let c := s.state
    match o with
    | .next total => (.decision (c.nextDispatch total).1, { s with state := (c.nextDispatch total).2 })
    | .record i =>
      match c.tryRecordDispatch i with
      | some d => (.recorded true, { s with state := d })
      | none => (.recorded false, s)
    | .abandon => (.remaining c.recordAbandoned.sent, { s with state := c.recordAbandoned })
    | .received => (.counters c.recordReceived, { s with state := c.recordReceived })
    | .stop => (.stopped c.stopLoading.1, { s with state := c.stopLoading.2 })
    | .snapshot => (.counters c, s)
    | .clone => (.handle s.handles, { s with handles := s.handles + 1 })

end SharedCounters

end Fanout
