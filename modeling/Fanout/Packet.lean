/-! Packets: numbered items on their way through a run, stamped by the worker that took them. -/

namespace Fanout

structure Packet (α : Type) where
  task : Nat
  worker : Option Nat := none
  item : α
  deriving DecidableEq, Repr

namespace Packet

variable {α β : Type}

/-- A packet that no worker has stamped. -/
def new (task : Nat) (item : α) : Packet α :=
  { task, item }

/-- Numbers items from zero. -/
def enumerate (items : List α) : List (Packet α) :=
  items.mapIdx new

/-- Stamps a packet; the first stamp stays. -/
def stamp (worker : Nat) (p : Packet α) : Packet α :=
  { p with worker := some (p.worker.getD worker) }

def mapItem (f : α → β) (p : Packet α) : Packet β :=
  { task := p.task, worker := p.worker, item := f p.item }

/-- The number of a task, padded with blanks on the right to two characters. -/
def paddedTask (p : Packet α) : String :=
  let digits := toString p.task
  if digits.length < 2 then digits ++ " " else digits

def display (p : Packet α) : String :=
  " packet#" ++ p.paddedTask ++ "  wkr" ++ (match p.worker with
    | some w => toString w
    | none => "-")

end Packet

end Fanout
