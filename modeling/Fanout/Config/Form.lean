import Fanout.Json.Shape
import Fanout.Settings.Reading

/-! How configuration values are read and written: strictly from a JSON text, leniently from
settings, and as a JSON value. A record is declared once, as a list of its fields. -/

namespace Fanout

structure Form (α : Type) where
  shape : Json.Shape α
  reading : Reading α
  json : α → Json

structure Field (C : Type) where
  name : String
  shape : Json.Shape (C → C)
  reading : Reading (C → C)
  json : C → Json

/-- A record type with its fields in the order in which they are written. -/
structure RecordForm (C : Type) where
  title : String
  default : C
  fields : List (Field C)

namespace Field

variable {α C : Type}

/-- The field of a name whose value has the given form. -/
def of (name : String) (form : Form α) (get : C → α) (set : α → C → C) : Field C :=
  { name
    shape := fun text => do
      let (x, rest) ← form.shape text
      return (set x, rest)
    reading := fun s => (form.reading s).map set
    json := fun c => form.json (get c) }

end Field

namespace Form

variable {α C : Type}

/-- A whole number of 64 bits without a sign. Sizes and times go by different names in messages. -/
def natural (expected : String) : Form Nat :=
  { shape := .natural expected, reading := .natural, json := .nat }

def size : Form Nat := natural "usize"

def milliseconds : Form Nat := natural "u64"

def boolean : Form Bool :=
  { shape := .boolean, reading := .boolean, json := .bool }

/-- One of several named alternatives. -/
def choice (title : String) (label : α → String) (all : List α) : Form α :=
  { shape := .choice label all
    reading := .choice title label all
    json := fun x => .string (label x) }

/-- Something with a text form of its own, or nothing. -/
def parsed (expected message : String) (parse? : String → Option α) (display : α → String) :
    Form (Option α) :=
  { shape := .nullable (.parsed expected message parse?)
    reading := .parsed? message parse?
    json := fun x => match x with
      | some x => .string (display x)
      | none => .null }

def record (r : RecordForm C) : Form C :=
  { shape := .record r.title (r.fields.map fun f => (f.name, f.shape)) r.default
    reading := .record r.title (r.fields.map fun f => (f.name, f.reading)) r.default
    json := fun c => .object (r.fields.map fun f => (f.name, f.json c)) }

end Form

end Fanout
