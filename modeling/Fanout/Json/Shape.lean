import Fanout.Json.Reader
import Fanout.Json.Skip
import Fanout.Number.Shortest
import Fanout.Text.Quoted

/-! Reading a JSON text straight into a value of a known shape. Reading stops at the first fault in
the text: the text may be malformed, or well-formed so far and of another shape. Nothing is
converted from one type to another. -/

namespace Fanout.Json

inductive Fault
  /-- This is no JSON text. -/
  | malformed
  /-- A value is not of the shape that is wanted here. -/
  | mismatch (message : String)
  deriving DecidableEq, Repr

/-- A shape reads a value at the front of a text and gives it with the text after it. -/
abbrev Shape (α : Type) := List Char → Except Fault (α × List Char)

namespace Shape

variable {α C : Type}

def orMalformed : Option α → Except Fault α
  | some x => .ok x
  | none => .error .malformed

/-- A value of another kind than expected. -/
def wrongType {β : Type} (found expected : String) : Except Fault β :=
  .error (.mismatch ("invalid type: " ++ found ++ ", expected " ++ expected))

/-- How a number is named where it is not expected. -/
def describeNumber : Json → String
  | .integer n => "integer `" ++ toString n ++ "`"
  | .float x => "floating point `" ++ Number.floatText .scientific x ++ "`"
  | _ => ""

/-- Refuses the value at the front of a text, or the text if there is none. -/
def refuse {β : Type} (expected : String) (text : List Char) : Except Fault β :=
  match text with
  | 'n' :: rest => do
    let _ ← orMalformed (scanWord ['u', 'l', 'l'] rest)
    wrongType "null" expected
  | 't' :: rest => do
    let _ ← orMalformed (scanWord ['r', 'u', 'e'] rest)
    wrongType "boolean `true`" expected
  | 'f' :: rest => do
    let _ ← orMalformed (scanWord ['a', 'l', 's', 'e'] rest)
    wrongType "boolean `false`" expected
  | '"' :: rest => do
    let (s, _) ← orMalformed (scanString .plain rest)
    wrongType ("string " ++ Text.quoted (String.ofList s)) expected
  | '[' :: _ => wrongType "sequence" expected
  | '\x7b' :: _ => wrongType "map" expected
  | _ => do
    let (n, _) ← orMalformed (scanNumberValue text)
    wrongType (describeNumber n) expected

def startsNumber : List Char → Bool
  | c :: _ => c = '-' || c.isDigit
  | [] => false

/-- A whole number of 64 bits without a sign; `expected` is its name in messages. -/
def natural (expected : String) : Shape Nat := fun text => do
  let text := skipBlanks text
  if startsNumber text then
    match ← orMalformed (scanNumberValue text) with
    | (.integer n, rest) =>
      if 0 ≤ n then return (n.toNat, rest)
      else .error (.mismatch ("invalid value: integer `" ++ toString n ++ "`, expected " ++ expected))
    | (n, _) => wrongType (describeNumber n) expected
  else refuse expected text

def boolean : Shape Bool := fun text =>
  match skipBlanks text with
  | 't' :: rest => do return (true, ← orMalformed (scanWord ['r', 'u', 'e'] rest))
  | 'f' :: rest => do return (false, ← orMalformed (scanWord ['a', 'l', 's', 'e'] rest))
  | text => refuse "a boolean" text

def text (expected : String) : Shape String := fun text =>
  match skipBlanks text with
  | '"' :: rest => do
    let (s, rest) ← orMalformed (scanString .plain rest)
    return (String.ofList s, rest)
  | text => refuse expected text

/-- A text that `parse?` understands. -/
def parsed (expected message : String) (parse? : String → Option α) : Shape α := fun input => do
  let (s, rest) ← text expected input
  match parse? s with
  | some x => return (x, rest)
  | none => .error (.mismatch message)

/-- A value, or `null` for none. -/
def nullable (inner : Shape α) : Shape (Option α) := fun text =>
  match skipBlanks text with
  | 'n' :: rest => do return (none, ← orMalformed (scanWord ['u', 'l', 'l'] rest))
  | text => do
    let (x, rest) ← inner text
    return (some x, rest)

/-- Names in backquotes, as a message lists them. -/
def alternatives (names : List String) : String :=
  match names.map fun n => "`" ++ n ++ "`" with
  | [] => "nothing"
  | [a] => a
  | [a, b] => a ++ " or " ++ b
  | many => "one of " ++ ", ".intercalate many

def colon (text : List Char) : Except Fault (List Char) :=
  match skipBlanks text with
  | ':' :: rest => .ok rest
  | _ => .error .malformed

/-- Reads `null` after the name of an alternative. -/
def unit (text : List Char) : Except Fault (List Char) :=
  match skipBlanks text with
  | 'n' :: rest => orMalformed (scanWord ['u', 'l', 'l'] rest)
  | text => refuse "unit" text

/-- The name of one of several alternatives. -/
def alternative (label : α → String) (all : List α) : Shape α := fun input => do
  let (s, rest) ← text "variant identifier" input
  match all.find? (label · == s) with
  | some x => return (x, rest)
  | none =>
    .error (.mismatch
      ("unknown variant `" ++ s ++ "`, expected " ++ alternatives (all.map label)))

/-- One of several named alternatives: its name, or an object with its name and `null`. -/
def choice (label : α → String) (all : List α) : Shape α := fun input =>
  match skipBlanks input with
  | '\x7b' :: rest => do
    let (x, rest) ← alternative label all rest
    let rest ← unit (← colon rest)
    match skipBlanks rest with
    | '\x7d' :: rest => return (x, rest)
    | _ => .error .malformed
  | '"' :: rest => alternative label all ('"' :: rest)
  | _ => .error .malformed

/-- The fields of a record: a name, and a shape that reads the value into the record. -/
abbrev Fields (C : Type) := List (String × Shape (C → C))

/-- Reads a member of an object and goes on with `next`. An unknown name is passed over, a known one
may stand once. -/
def member (fields : Fields C) (seen : List String) (record : C)
    (next : List String → C → Shape C) : Shape C := fun input => do
  let (name, rest) ← orMalformed (scanQuoted input)
  match fields.find? (·.1 == name) with
  | none =>
    let rest ← orMalformed (skipValue (← colon rest))
    next seen record rest
  | some (_, shape) =>
    if seen.contains name then .error (.mismatch ("duplicate field `" ++ name ++ "`"))
    else
      let (update, rest) ← shape (← colon rest)
      next (name :: seen) (update record) rest

/-- Reads the members of an object after its opening bracket. Every member takes at least one
character of the fuel. -/
def members (fields : Fields C) : Nat → Bool → List String → C → Shape C
  | 0, _, _, _, _ => .error .malformed
  | fuel + 1, isFirst, seen, record, input =>
    match skipBlanks input with
    | '\x7d' :: rest => .ok (record, rest)
    | ',' :: rest =>
      if isFirst then .error .malformed
      else member fields seen record (members fields fuel false) (skipBlanks rest)
    | text =>
      if isFirst then member fields seen record (members fields fuel false) text
      else .error .malformed

/-- Reads the items of an array after its opening bracket as the values of the fields in their
order; those at the end may be left out. -/
def items : Fields C → Bool → C → Shape C
  | [], _, record, input =>
    match skipBlanks input with
    | ']' :: rest => .ok (record, rest)
    | _ => .error .malformed
  | (_, shape) :: fields, isFirst, record, input =>
    match skipBlanks input with
    | ']' :: rest => .ok (record, rest)
    | ',' :: rest =>
      if isFirst then .error .malformed
      else match skipBlanks rest with
        | ']' :: _ | [] => .error .malformed
        | text => do
          let (update, rest) ← shape text
          items fields false (update record) rest
    | [] => .error .malformed
    | text =>
      if isFirst then do
        let (update, rest) ← shape text
        items fields false (update record) rest
      else .error .malformed

/-- A record: an object, or an array of the fields in their order. Fields that are left out keep
their defaults. -/
def record (title : String) (fields : Fields C) (default : C) : Shape C := fun input =>
  match skipBlanks input with
  | '\x7b' :: rest => members fields (rest.length + 1) true [] default rest
  | '[' :: rest => items fields true default rest
  | text => refuse ("struct " ++ title) text

/-- Reads a text that consists of one value. -/
def parse (shape : Shape α) (input : String) : Except Fault α := do
  let (x, rest) ← shape input.toList
  if skipBlanks rest = [] then return x else .error .malformed

end Shape

end Fanout.Json
