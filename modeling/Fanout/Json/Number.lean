import Fanout.Number.Digits

/-! Numbers of a JSON text. A whole number that fits 64 bits is kept exactly; any other number is a
float, computed from as many leading digits as fit an unsigned 64-bit significand and a power of
ten. A float beyond the range of binary64 is refused. Minus zero is a float. -/

namespace Fanout.Json

/-- A number as it is written. -/
structure NumberText where
  negative : Bool
  whole : List Char
  fraction : List Char
  /-- Whether a fraction or an exponent makes the number a float. -/
  isWhole : Bool
  exponentNegative : Bool
  exponent : List Char

/-- Splits the digits at the front off a text. -/
def digitsOf (text : List Char) : List Char × List Char :=
  (text.takeWhile Char.isDigit, text.dropWhile Char.isDigit)

/-- Reads the whole part: one zero, or digits that do not begin with a zero. -/
def scanWhole (text : List Char) : Option (List Char × List Char) :=
  match digitsOf text with
  | ([], _) => none
  | (['0'], rest) => some (['0'], rest)
  | ('0' :: _, _) => none
  | (digits, rest) => some (digits, rest)

/-- Reads a fraction where there is one; a point needs at least one digit after it. -/
def scanFraction (text : List Char) : Option (Option (List Char) × List Char) :=
  match text with
  | '.' :: rest =>
    match digitsOf rest with
    | ([], _) => none
    | (digits, rest) => some (some digits, rest)
  | _ => some (none, text)

/-- Reads an exponent where there is one: its sign and at least one digit. -/
def scanExponent (text : List Char) : Option (Option (Bool × List Char) × List Char) :=
  match text with
  | e :: rest =>
    if e = 'e' ∨ e = 'E' then
      let (negative, rest) := match rest with
        | '+' :: r => (false, r)
        | '-' :: r => (true, r)
        | r => (false, r)
      match digitsOf rest with
      | ([], _) => none
      | (digits, rest) => some (some (negative, digits), rest)
    else some (none, text)
  | [] => some (none, [])

/-- Reads a number as it is written. -/
def scanNumber (text : List Char) : Option (NumberText × List Char) := do
  let (negative, text) := match text with
    | '-' :: rest => (true, rest)
    | _ => (false, text)
  let (whole, text) ← scanWhole text
  let (fraction, text) ← scanFraction text
  let (exponent, text) ← scanExponent text
  let (exponentNegative, digits) := exponent.getD (false, [])
  some ({ negative, whole, fraction := fraction.getD [],
          isWhole := fraction.isNone && exponent.isNone, exponentNegative, exponent := digits },
        text)

/-- Extends a significand by digits while it fits 64 bits; the count tells how many were taken. -/
def takeDigits (significand : Nat) : List Char → Nat × Nat
  | [] => (significand, 0)
  | c :: rest =>
    let next := 10 * significand + Number.digitValue c
    if next ≤ Number.maxWord then
      let (n, taken) := takeDigits next rest
      (n, taken + 1)
    else (significand, 0)

/-- The float nearest to a power of ten. -/
def powerOfTen (e : Nat) : Float :=
  Float.ofScientific 1 false e

/-- Multiplies `x` by ten to the power `e`, at most 308 powers at a time. Where the exponent is too
large for a factor that is not zero the number is out of range. The fuel bounds the number of
downward rounds, after which nothing is left of `x`. -/
def scale : Nat → Float → Int → Option Float
  | 0, _, _ => some 0.0
  | fuel + 1, x, e =>
    if e.natAbs ≤ 308 then
      if 0 ≤ e then
        let y := x * powerOfTen e.natAbs
        if y.isInf then none else some y
      else some (x / powerOfTen e.natAbs)
    else if x == 0.0 then some x
    else if 0 ≤ e then none
    else scale fuel (x / powerOfTen 308) (e + 308)

def signed (negative : Bool) (x : Float) : Float :=
  if negative then -x else x

/-- The largest exponent that is read as a number. -/
def maxExponent : Nat := Nat.pow 2 31 - 1

/-- Keeps an exponent within a signed 32-bit number. -/
def clampExponent (e : Int) : Int :=
  max (-(maxExponent : Int) - 1) (min (maxExponent : Int) e)

/-- The value of a number that is a float. -/
def NumberText.float (n : NumberText) : Option Float := do
  let (significand, taken) := takeDigits 0 n.whole
  let skipped : Int := ((n.whole.length - taken : Nat) : Int)
  let (significand, places) := takeDigits significand n.fraction
  let start := skipped - places
  let exponent := Number.ofDigits n.exponent
  if exponent > maxExponent then
    if significand ≠ 0 ∧ !n.exponentNegative then none
    else some (signed n.negative 0.0)
  else
    let e := if n.exponentNegative then -(exponent : Int) else exponent
    let x ← scale 4 (Float.ofNat significand) (clampExponent (start + e))
    some (signed n.negative x)

/-- The value of a number. -/
inductive NumberValue
  | integer (n : Int)
  | float (x : Float)

/-- The value of a written number, unless it is out of range. -/
def NumberText.value (n : NumberText) : Option NumberValue :=
  if n.isWhole then
    let m := Number.ofDigits n.whole
    if n.negative then
      if m = 0 then some (.float (-0.0))
      else if m ≤ Nat.pow 2 63 then some (.integer (-(m : Int)))
      else n.float.map .float
    else if m ≤ Number.maxWord then some (.integer m)
    else n.float.map .float
  else n.float.map .float

end Fanout.Json
