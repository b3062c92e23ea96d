/-! Bounded channels. A slot may be reserved before something is put into it. What is left in the
buffer when the last receiver goes is lost. -/

namespace Fanout

structure Channel (α : Type) where
  capacity : Nat
  buffer : List α := []
  /-- Slots that are taken but not filled yet. -/
  reserved : Nat := 0
  /-- Senders that are alive. -/
  senders : Nat
  /-- Receivers that are alive. -/
  receivers : Nat
  deriving DecidableEq, Repr

namespace Channel

variable {α : Type}

def hasRoom (c : Channel α) : Bool :=
  c.buffer.length + c.reserved < c.capacity

def reserve (c : Channel α) : Channel α :=
  { c with reserved := c.reserved + 1 }

def release (c : Channel α) : Channel α :=
  { c with reserved := c.reserved - 1 }

/-- Puts something into the buffer, which nobody will see when the receivers are gone. -/
def push (x : α) (c : Channel α) : Channel α :=
  if c.receivers = 0 then c else { c with buffer := c.buffer ++ [x] }

/-- Fills a reserved slot. -/
def commit (x : α) (c : Channel α) : Channel α :=
  c.release.push x

def take? (c : Channel α) : Option (α × Channel α) :=
  match c.buffer with
  | [] => none
  | x :: rest => some (x, { c with buffer := rest })

def dropSender (c : Channel α) : Channel α :=
  { c with senders := c.senders - 1 }

/-- What is lost when one receiver goes. -/
def lostWithReceiver (c : Channel α) : List α :=
  if c.receivers ≤ 1 then c.buffer else []

def dropReceiver (c : Channel α) : Channel α :=
  { c with receivers := c.receivers - 1, buffer := if c.receivers ≤ 1 then [] else c.buffer }

end Channel

end Fanout
