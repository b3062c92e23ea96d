import Fanout.Number.Decimal

/-! What a plain scalar stands for. -/

namespace Fanout.Yaml

/-- The meaning of a scalar. A float keeps its text. -/
inductive ScalarValue
  | null
  | bool (b : Bool)
  | integer (n : Int)
  | real (text : String)
  | text (s : String)
  /-- The text is not of the type that its tag asks for. -/
  | bad
  deriving DecidableEq, Repr

/-- Words for the numbers that are not finite. -/
def floatWords : List String :=
  [".inf", ".Inf", ".INF", "+.inf", "+.Inf", "+.INF", "-.inf", "-.Inf", "-.INF", ".nan", "NaN",
    ".NAN"]

/-- A text that is a float: one of the words, or a number with at least one digit. -/
def isFloat (text : String) : Bool :=
  floatWords.contains text
    || (text.toList.any Char.isDigit && (Number.parseFloat? text).isSome)

/-- Reads the digits after a sign that shows the base. -/
def basedInteger? (chars : List Char) : Option Int :=
  match chars with
  | '0' :: 'x' :: digits => Number.signedWord? 16 digits
  | '0' :: 'o' :: digits => Number.signedWord? 8 digits
  | '+' :: digits => Number.signedWord? 10 digits
  | _ => none

/-- The meaning of a plain scalar without a tag. -/
def ScalarValue.ofPlain (text : String) : ScalarValue :=
  match basedInteger? text.toList with
  | some n => .integer n
  | none =>
    if text = "" ∨ text = "~" ∨ text = "null" then .null
    else if text = "true" then .bool true
    else if text = "false" then .bool false
    else match Number.signedWord? 10 text.toList with
      | some n => .integer n
      | none => if isFloat text then .real text else .text text

/-- The address that the tags of the basic types begin with. -/
def basicTags : String := "tag:yaml.org,2002:"

/-- The meaning of a plain scalar with a tag. -/
def ScalarValue.ofTagged (tag text : String) : ScalarValue :=
  if tag = basicTags ++ "bool" then
    if text = "true" then .bool true else if text = "false" then .bool false else .bad
  else if tag = basicTags ++ "int" then
    match Number.signedWord? 10 text.toList with
    | some n => .integer n
    | none => .bad
  else if tag = basicTags ++ "float" then if isFloat text then .real text else .bad
  else if tag = basicTags ++ "null" then if text = "~" ∨ text = "null" then .null else .bad
  else .text text

end Fanout.Yaml
