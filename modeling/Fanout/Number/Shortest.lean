import Fanout.Number.Digits

/-! The fewest decimal digits that read back as a given binary64 number. A finite number is
`m * 2 ^ q`; the reals that round to it form an interval around it, ends included when `m` is even.
For one digit, two, and so on, the two neighbours of the number on the grid of that many digits are
tried; the first grid with a neighbour in the interval gives the digits. -/

namespace Fanout.Number

/-- A finite binary64 number without its sign: `mantissa * 2 ^ exponent`. -/
structure Binary where
  mantissa : Nat
  exponent : Int
  /-- Whether the next smaller number is only half as far away as the next larger one. -/
  narrowBelow : Bool
  deriving DecidableEq, Repr

inductive Decoded
  | finite (negative : Bool) (value : Binary)
  | infinite (negative : Bool)
  | notANumber
  deriving DecidableEq, Repr

/-- Splits a number into its sign, mantissa and exponent. -/
def decode (x : Float) : Decoded :=
  let bits : Nat := x.toBits.toNat
  let negative := Nat.pow 2 63 ≤ bits
  let field : Nat := bits / Nat.pow 2 52 % Nat.pow 2 11
  let fraction : Nat := bits % Nat.pow 2 52
  if field = 2047 then
    if fraction = 0 then .infinite negative else .notANumber
  else if field = 0 then .finite negative ⟨fraction, -1074, false⟩
  else .finite negative ⟨Nat.pow 2 52 + fraction, (field : Int) - 1075, fraction = 0 ∧ 1 < field⟩

/-- A decimal number `digits * 10 ^ exponent`. -/
structure Decimal where
  digits : Nat
  exponent : Int
  deriving DecidableEq, Repr

/-- The quotient of two positive numbers lies between ten to this power and ten times that. -/
def decimalExponent (num den : Nat) : Int :=
  if den ≤ num then ((Nat.toDigits 10 (num / den)).length : Int) - 1
  else -((Nat.toDigits 10 ((den + num - 1) / num - 1)).length : Int)

/-- Drops one final zero, which the upper neighbour has where it is a power of ten. -/
def Decimal.dropZero (d : Decimal) : Decimal :=
  if d.digits ≠ 0 ∧ d.digits % 10 = 0 then ⟨d.digits / 10, d.exponent + 1⟩ else d

/-- The distance of two numbers. -/
def distance (a b : Nat) : Nat :=
  if a ≤ b then b - a else a - b

/-- Tries grids of `used`, `used + 1`, ... digits; `num / den` is the number and `low / den`,
`high / den` are the ends of its interval. -/
def shortestFrom (num low high den : Nat) (closed : Bool) (top : Int) : Nat → Nat → Decimal
  | 0, used => ⟨num / den, used⟩
  | fuel + 1, used =>
    let place := top - used + 1
    let (scaleUp, scaleDown) :=
      if 0 ≤ place then (1, Nat.pow 10 place.toNat) else (Nat.pow 10 place.natAbs, 1)
    let n := num * scaleUp
    let d := den * scaleDown
    let c := n / d
    let inside (k : Nat) : Bool :=
      let v := k * d
      if closed then low * scaleUp ≤ v && v ≤ high * scaleUp
      else low * scaleUp < v && v < high * scaleUp
    match inside c, inside (c + 1) with
    | true, true =>
      let below := distance n (c * d)
      let above := distance n ((c + 1) * d)
      if below < above ∨ (below = above ∧ c % 2 = 0) then ⟨c, place⟩ else ⟨c + 1, place⟩
    | true, false => ⟨c, place⟩
    | false, true => ⟨c + 1, place⟩
    | false, false => shortestFrom num low high den closed top fuel (used + 1)

/-- The shortest decimal for a positive number; seventeen digits always suffice. -/
def Binary.shortest (b : Binary) : Decimal :=
  if b.mantissa = 0 then ⟨0, 0⟩
  else
    let (up, down) :=
      if 0 ≤ b.exponent then (Nat.pow 2 b.exponent.toNat, 4)
      else (1, 4 * Nat.pow 2 b.exponent.natAbs)
    let num := 4 * b.mantissa * up
    let low := (4 * b.mantissa - if b.narrowBelow then 1 else 2) * up
    let high := (4 * b.mantissa + 2) * up
    (shortestFrom num low high down (b.mantissa % 2 = 0) (decimalExponent num down) 17 1).dropZero

/-- When and how a number is written with an exponent. -/
structure FloatStyle where
  /-- The smallest position of the decimal point, counted from the first digit, that is still
  written without an exponent. -/
  pointAtLeast : Option Int
  /-- The largest such position. -/
  pointAtMost : Option Int
  /-- The least number of digits of an exponent. -/
  exponentDigits : Nat
  infinity : String
  notANumber : String

/-- Never an exponent; a fraction is always written. -/
def FloatStyle.positional : FloatStyle :=
  ⟨none, none, 1, "inf.0", "NaN.0"⟩

/-- An exponent below a hundred-thousandth and from ten to the sixteenth on, with its sign and at
least two digits. -/
def FloatStyle.scientific : FloatStyle :=
  ⟨some (-4), some 16, 2, "null", "null"⟩

/-- A number that is padded with zeros on the left to a least width. -/
def padZeros (width : Nat) (digits : List Char) : List Char :=
  List.replicate (width - digits.length) '0' ++ digits

/-- Digits with the point after the first `point` of them, and at least one digit on each side. -/
def positionalChars (digits : List Char) (point : Int) : List Char :=
  if point ≤ 0 then '0' :: '.' :: (List.replicate point.natAbs '0' ++ digits)
  else
    let n := point.toNat
    if digits.length ≤ n then digits ++ List.replicate (n - digits.length) '0' ++ ['.', '0']
    else digits.take n ++ '.' :: digits.drop n

def exponentChars (style : FloatStyle) (digits : List Char) (point : Int) : List Char :=
  let e := point - 1
  let mantissa := match digits with
    | [] => []
    | [d] => [d]
    | d :: rest => d :: '.' :: rest
  mantissa ++ 'e' :: (if 0 ≤ e then '+' else '-')
    :: padZeros style.exponentDigits (Nat.toDigits 10 e.natAbs)

/-- The text of a float in a style. -/
def floatText (style : FloatStyle) (x : Float) : String :=
  match decode x with
  | .notANumber => style.notANumber
  | .infinite negative => (if negative then "-" else "") ++ style.infinity
  | .finite negative b =>
    let decimal := b.shortest
    let digits := Nat.toDigits 10 decimal.digits
    let point := if decimal.digits = 0 then 1 else (digits.length : Int) + decimal.exponent
    let plain := style.pointAtLeast.all (· ≤ point) && style.pointAtMost.all (point ≤ ·)
    (if negative then "-" else "") ++
      String.ofList (if plain then positionalChars digits point else exponentChars style digits point)

/-- The nearest whole number, a half going away from zero, kept within an unsigned 64-bit word;
what is not a number counts as zero. -/
def roundToWord (x : Float) : Nat :=
  match decode x with
  | .notANumber => 0
  | .infinite negative => if negative then 0 else maxWord
  | .finite true _ => 0
  | .finite false b =>
    if 0 ≤ b.exponent then
      if b.exponent ≤ 64 then min maxWord (b.mantissa * Nat.pow 2 b.exponent.toNat) else maxWord
    else
      let d := Nat.pow 2 b.exponent.natAbs
      (2 * b.mantissa + d) / (2 * d)

end Fanout.Number
