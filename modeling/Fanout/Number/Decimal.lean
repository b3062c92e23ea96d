import Fanout.Number.Digits

/-! Reading a decimal text as the nearest binary64 number. -/

namespace Fanout.Number

/-- A decimal text: a sign, digits with a point anywhere among them, and an exponent. -/
structure DecimalText where
  negative : Bool
  digits : List Char
  /-- The power of ten by which the digits are multiplied. -/
  exponent : Int

/-- Splits a sign off. -/
def splitSign (text : List Char) : Bool × List Char :=
  match text with
  | '-' :: rest => (true, rest)
  | '+' :: rest => (false, rest)
  | _ => (false, text)

/-- Reads an exponent that makes up the rest of a text; without one it is zero. -/
def exponent? (text : List Char) : Option Int :=
  match text with
  | [] => some 0
  | e :: rest =>
    if e = 'e' ∨ e = 'E' then
      let (negative, digits) := splitSign rest
      (ofDigits? 10 digits).map fun n => if negative then -(n : Int) else n
    else none

/-- Splits a decimal text into its parts. There is at least one digit before or after the point. -/
def decimalText? (text : List Char) : Option DecimalText :=
  let (negative, text) := splitSign text
  let (whole, text) := text.span Char.isDigit
  let (fraction, text) := match text with
    | '.' :: rest => rest.span Char.isDigit
    | _ => ([], text)
  if whole = [] ∧ fraction = [] then none
  else (exponent? text).map fun e => ⟨negative, whole ++ fraction, e - fraction.length⟩

/-- The nearest float. Beyond these powers of ten a number is out of range or too small to be told
from zero. -/
def DecimalText.toFloat (d : DecimalText) : Float :=
  let n := ofDigits d.digits
  let x :=
    if n = 0 then 0.0
    else if 400 < d.exponent then 1.0 / 0.0
    else if d.exponent < -(400 + d.digits.length : Int) then 0.0
    else if 0 ≤ d.exponent then Float.ofScientific (n * Nat.pow 10 d.exponent.toNat) false 0
    else Float.ofScientific n true d.exponent.natAbs
  if d.negative then -x else x

/-- The words for infinity and for what is not a number, in lower case. -/
def floatWord? (word : String) : Option Float :=
  if word = "inf" ∨ word = "infinity" then some (1.0 / 0.0)
  else if word = "nan" then some (0.0 / 0.0)
  else none

/-- Reads a float: a decimal text, or a word in any case with an optional sign. -/
def parseFloat? (text : String) : Option Float :=
  match decimalText? text.toList with
  | some d => some d.toFloat
  | none =>
    let (negative, rest) := splitSign text.toList
    (floatWord? (String.ofList (rest.map Char.toLower))).map fun x => if negative then -x else x

end Fanout.Number
