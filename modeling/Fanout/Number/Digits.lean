/-! Decimal digits and the reading of whole numbers of bounded size. -/

namespace Fanout.Number

/-- The value of a decimal digit, and zero for any other character. -/
def digitValue (c : Char) : Nat :=
  if c.isDigit then c.toNat - '0'.toNat else 0

/-- The value of a hexadecimal digit of either case. -/
def hexValue? (c : Char) : Option Nat :=
  if c.isDigit then some (c.toNat - '0'.toNat)
  else if 'a' ≤ c ∧ c ≤ 'f' then some (c.toNat - 'a'.toNat + 10)
  else if 'A' ≤ c ∧ c ≤ 'F' then some (c.toNat - 'A'.toNat + 10)
  else none

/-- The number written by decimal digits, the most significant first. -/
def ofDigits (digits : List Char) : Nat :=
  digits.foldl (fun n c => 10 * n + digitValue c) 0

/-- The value of digits in a base of at most sixteen; there is at least one digit. -/
def ofDigits? (base : Nat) (digits : List Char) : Option Nat :=
  if digits = [] then none
  else digits.foldl (fun n? c =>
    match n?, hexValue? c with
    | some n, some d => if d < base then some (base * n + d) else none
    | _, _ => none) (some 0)

/-- The largest unsigned 64-bit number. -/
def maxWord : Nat := Nat.pow 2 64 - 1

/-- Reads an unsigned 64-bit number: decimal digits after an optional plus sign. -/
def word? (text : List Char) : Option Nat :=
  let digits := match text with
    | '+' :: rest => rest
    | _ => text
  match ofDigits? 10 digits with
  | some n => if n ≤ maxWord then some n else none
  | none => none

/-- Reads a signed 64-bit number in a base of at most sixteen: digits after an optional sign. -/
def signedWord? (base : Nat) (text : List Char) : Option Int :=
  match text with
  | '-' :: digits =>
    match ofDigits? base digits with
    | some n => if n ≤ Nat.pow 2 63 then some (-(n : Int)) else none
    | none => none
  | '+' :: digits => natural digits
  | digits => natural digits
where
  natural (digits : List Char) : Option Int :=
    match ofDigits? base digits with
    | some n => if n < Nat.pow 2 63 then some (n : Int) else none
    | none => none

end Fanout.Number
