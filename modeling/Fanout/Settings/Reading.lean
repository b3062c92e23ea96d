import Fanout.Settings.Setting
import Fanout.Number.Digits
import Fanout.Number.Shortest
import Fanout.Text.Quoted

/-! Reading settings leniently: numbers, truth values and words are converted into one another where
that makes sense. A setting of a wrong type is reported with its key and its origin. -/

namespace Fanout

/-- Why a setting cannot be read. -/
inductive Misreading
  | wrongType (found expected : String) (key : Option String) (origin : Option String)
  | message (text : String)
  deriving DecidableEq, Repr

namespace Misreading

/-- Puts the name of an entry before the key. -/
def underName (name : String) : Misreading → Misreading
  | .wrongType found expected key origin =>
    let key := match key with
      | none => name
      | some k => if k.startsWith "[" then name ++ k else name ++ "." ++ k
    .wrongType found expected (some key) origin
  | m => m

/-- Puts the index of an item before the key. -/
def underIndex (index : Nat) : Misreading → Misreading :=
  underName ("[" ++ toString index ++ "]")

def display : Misreading → String
  | .wrongType found expected key origin =>
    "invalid type: " ++ found ++ ", expected " ++ expected
      ++ (match key with
          | some k => " for key `" ++ k ++ "`"
          | none => "")
      ++ (match origin with
          | some o => " in " ++ o
          | none => "")
  | .message text => text

end Misreading

/-- A way to read a setting. -/
abbrev Reading (α : Type) := Setting → Except Misreading α

namespace Reading

variable {α C : Type}

/-- Words that stand for a truth value, in lower case. -/
def truthWord? (word : String) : Option Bool :=
  if word = "true" ∨ word = "on" ∨ word = "yes" then some true
  else if word = "false" ∨ word = "off" ∨ word = "no" then some false
  else none

/-- The name of a kind of setting. -/
def kindName : Setting → String
  | .scalar _ .nil => "unit value"
  | .scalar _ (.bool b) => "boolean `" ++ toString b ++ "`"
  | .scalar _ (.integer n) => "64-bit integer `" ++ toString n ++ "`"
  | .scalar _ (.float _) => "floating point"
  | .scalar _ (.text s) => "string " ++ Text.quoted s
  | .table .. => "map"
  | .array .. => "sequence"

def refuse (expected : String) (s : Setting) : Except Misreading α :=
  .error (.wrongType (kindName s) expected none s.origin?)

/-- A whole number of 64 bits without a sign. A float is rounded, a truth value is zero or one. -/
def natural : Reading Nat
  | .scalar _ (.bool b) => .ok b.toNat
  | .scalar o (.integer n) =>
    if 0 ≤ n then .ok n.toNat
    else refuse "an unsigned 64 bit or less integer" (.scalar o (.integer n))
  | .scalar _ (.float x) => .ok (Number.roundToWord x)
  | .scalar o (.text s) =>
    match truthWord? (Text.lower s) with
    | some b => .ok b.toNat
    | none => match Number.word? s.toList with
      | some n => .ok n
      | none => refuse "an integer" (.scalar o (.text s))
  | s => refuse "an integer" s

/-- A truth value. A number is true unless it is zero. -/
def boolean : Reading Bool
  | .scalar _ (.bool b) => .ok b
  | .scalar _ (.integer n) => .ok (n != 0)
  | .scalar _ (.float x) => .ok (x != 0.0)
  | .scalar o (.text s) =>
    let word := Text.lower s
    if word = "1" then .ok true
    else if word = "0" then .ok false
    else match truthWord? word with
      | some b => .ok b
      | none => refuse "a boolean" (.scalar o (.text word))
  | s => refuse "a boolean" s

/-- A text that `parse?` understands; nothing for an empty setting. Numbers and truth values are
never such a text. -/
def parsed? (message : String) (parse? : String → Option α) : Reading (Option α)
  | .scalar _ .nil => .ok none
  | .scalar _ (.text s) => match parse? s with
    | some x => .ok (some x)
    | none => .error (.message message)
  | .scalar _ _ => .error (.message message)
  | s => refuse "a string" s

/-- One of several named alternatives, in any case: its name, or a table with its name as the only
key. -/
def choice (title : String) (label : α → String) (all : List α) : Reading α :=
  let named (name : String) : Except Misreading α :=
    match all.find? fun x => Text.lower (label x) == Text.lower name with
    | some x => .ok x
    | none =>
      .error (.message ("enum " ++ title ++ " does not have variant constructor " ++ name))
  fun
    | .scalar _ (.text s) => named s
    | .table _ [(name, _)] => named name
    | _ =>
      .error (.message ("value of enum " ++ title
        ++ " should be represented by either string or table with exactly one key"))

/-- The fields of a record: a name, and a reading into the record. -/
abbrev Fields (C : Type) := List (String × Reading (C → C))

/-- Reads the entries of a table into a record. -/
def entries (table : List (String × Setting)) : Fields C → C → Except Misreading C
  | [], record => .ok record
  | (name, reading) :: rest, record =>
    match Setting.lookup name table with
    | none => entries table rest record
    | some s =>
      match reading s with
      | .ok update => entries table rest (update record)
      | .error m => .error (m.underName name)

/-- Reads the items of an array as the values of the fields in their order. -/
def items (index : Nat) : List Setting → Fields C → C → Except Misreading C
  | s :: rest, (_, reading) :: fields, record =>
    match reading s with
    | .ok update => items (index + 1) rest fields (update record)
    | .error m => .error (m.underIndex index)
  | _, _, record => .ok record

/-- How a scalar is named where a record is expected. -/
def scalarName : Scalar → String
  | .nil => "unit value"
  | .bool b => "boolean `" ++ toString b ++ "`"
  | .integer n => "integer `" ++ toString n ++ "`"
  | .float x => "floating point `" ++ Number.floatText .positional x ++ "`"
  | .text s => "string " ++ Text.quoted s

/-- A record: a table, or an array of the fields in their order. What is left out keeps its default,
and what is not known is passed over. -/
def record (title : String) (fields : Fields C) (default : C) : Reading C
  | .table _ table => entries table fields default
  | .array _ list => items 0 list fields default
  | .scalar _ v =>
    .error (.message ("invalid type: " ++ scalarName v ++ ", expected struct " ++ title))

end Reading

end Fanout
