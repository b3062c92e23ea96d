import Fanout.Config

/-! Synthetic workloads: tasks that sleep for a random time. Times are drawn from a range of 64-bit
words without bias: a word is taken only if it lies in a zone whose size is a multiple of the size
of the range. -/

namespace Fanout

/-- Why no time can be drawn. -/
inductive DrawFault
  | emptyRange
  | wordsExhausted
  deriving DecidableEq, Repr

def DrawFault.message : DrawFault → String
  | .emptyRange => "cannot sample empty range"
  | .wordsExhausted => "random words exhausted"

namespace Draw

/-- The number of words. -/
def modulus : Nat := Nat.pow 2 64

/-- The number of zero bits in front of a word. -/
def leadingZeros (n : Nat) : Nat :=
  if n = 0 then 64 else 63 - n.log2

/-- The largest low half of a product that is accepted, for a range of this size. -/
def zone (size : Nat) : Nat :=
  size * Nat.pow 2 (leadingZeros size) - 1

/-- Takes words until one lies in the zone. -/
def within (low size : Nat) : List Nat → Except DrawFault (Nat × List Nat)
  | [] => .error .wordsExhausted
  | w :: rest =>
    if w * size % modulus ≤ zone size then .ok (low + w * size / modulus, rest)
    else within low size rest

/-- Draws a number from `low` to `high`, both included, and gives it with the words that are left. -/
def range (low high : Nat) (words : List Nat) : Except DrawFault (Nat × List Nat) :=
  if high < low then .error .emptyRange
  else
    let size := (high - low + 1) % modulus
    if size = 0 then
      match words with
      | w :: rest => .ok (w, rest)
      | [] => .error .wordsExhausted
    else within low size words

/-- Draws so many numbers one after the other. -/
def times (low high : Nat) : Nat → List Nat → Except DrawFault (List Nat × List Nat)
  | 0, words => .ok ([], words)
  | count + 1, words => do
    let (x, words) ← range low high words
    let (xs, words) ← times low high count words
    return (x :: xs, words)

end Draw

/-- Draws the times of all tasks; the words that are left come with them. -/
def WorkloadConfig.draw (c : WorkloadConfig) (words : List Nat) :
    Except DrawFault (List Nat × List Nat) :=
  Draw.times c.minTaskMs c.maxTaskMs c.taskCount words

end Fanout
