import Fanout.Text.Case

/-! Layered settings. A setting is a scalar, a table or an array and may know where it comes from. A
layer is laid over another one key by key: tables are merged entry by entry, anything else replaces
what was there. Keys of tables are lower-cased when they are laid over. -/

namespace Fanout

inductive Scalar
  | nil
  | bool (b : Bool)
  | integer (n : Int)
  | float (x : Float)
  | text (s : String)

inductive Setting
  | scalar (origin : Option String) (value : Scalar)
  | table (origin : Option String) (entries : List (String × Setting))
  | array (origin : Option String) (items : List Setting)
  deriving Inhabited

namespace Setting

def empty : Setting := .table none []

def nil : Setting := .scalar none .nil

/-- Where a setting comes from. -/
def origin? : Setting → Option String
  | .scalar origin _ => origin
  | .table origin _ => origin
  | .array origin _ => origin

/-- The setting itself if it is a table, else a new empty one. -/
def asTable (s : Setting) : Option String × List (String × Setting) :=
  match s with
  | .table origin entries => (origin, entries)
  | _ => (none, [])

/-- The setting itself if it is an array, else a new empty one. -/
def asArray (s : Setting) : Option String × List Setting :=
  match s with
  | .array origin items => (origin, items)
  | _ => (none, [])

/-- The entry of a name. -/
def lookup (name : String) (entries : List (String × Setting)) : Option Setting :=
  (entries.find? (·.1 == name)).map (·.2)

/-- Replaces the entry of a name, or adds one. -/
def putEntry (name : String) (value : Setting) :
    List (String × Setting) → List (String × Setting)
  | [] => [(name, value)]
  | (n, v) :: rest => if n = name then (n, value) :: rest else (n, v) :: putEntry name value rest

mutual

/-- Lays a value over the entry of a name in a root, which becomes a table. -/
def overlay (name : String) (incoming root : Setting) : Setting :=
  let (origin, entries) := root.asTable
  let name := Text.lower name
  match incoming with
  | .table _ inner =>
    .table origin (putEntry name (overlayAll inner ((lookup name entries).getD empty)) entries)
  | .scalar o v => .table origin (putEntry name (.scalar o v) entries)
  | .array o items => .table origin (putEntry name (.array o items) entries)

/-- Lays entries over a root, one after the other. -/
def overlayAll : List (String × Setting) → Setting → Setting
  | [], root => root
  | (name, value) :: rest, root => overlayAll rest (overlay name value root)

end

/-- Makes an array long enough for an index. -/
def padTo (index : Nat) (items : List Setting) : List Setting :=
  items ++ List.replicate (index + 1 - items.length) nil

/-- The place of an index; a negative one counts from the end. -/
def place (index : Int) (length : Nat) : Nat :=
  if 0 ≤ index then index.toNat else length - index.natAbs

/-- Changes the entry of a name, which is written as it is; the setting becomes a table. -/
def modifyEntry (name : String) (change : Setting → Setting) (s : Setting) : Setting :=
  let (origin, entries) := s.asTable
  .table origin (putEntry name (change ((lookup name entries).getD nil)) entries)

/-- Changes the item at an index; the setting becomes an array that is long enough. -/
def modifyItem (index : Int) (change : Setting → Setting) (s : Setting) : Setting :=
  let (origin, items) := s.asArray
  let i := place index items.length
  .array origin ((padTo i items).modify i change)

end Setting

/-- One step of a path into a setting. -/
inductive PathStep
  | name (s : String)
  | index (i : Int)
  deriving DecidableEq, Repr

/-- A path into a table: the name of an entry and steps below it. -/
structure SettingPath where
  first : String
  steps : List PathStep
  deriving DecidableEq, Repr

namespace Setting

/-- Follows steps below a setting and lays a value over what is at their end. Only the last name is
lower-cased. -/
def setBelow (value : Setting) : PathStep → List PathStep → Setting → Setting
  | .name n, [], s => overlay n value s
  | .index i, [], s => modifyItem i (fun _ => value) s
  | .name n, next :: rest, s => modifyEntry n (setBelow value next rest) s
  | .index i, next :: rest, s => modifyItem i (setBelow value next rest) s

/-- Lays a value over the place that a path names. -/
def set (path : SettingPath) (value root : Setting) : Setting :=
  setBelow value (.name path.first) path.steps root

end Setting

namespace SettingPath

/-- Characters of a name within a path. -/
def isNameChar (c : Char) : Bool :=
  c.isAlphanum || c = ' ' || c = '_' || c = '-'

/-- Reads the digits of an index and a closing bracket. -/
def scanIndex (text : List Char) : Option (Int × List Char) :=
  let (negative, text) := match text with
    | '-' :: rest => (true, rest)
    | _ => (false, text)
  match text.span Char.isDigit with
  | ([], _) => none
  | (digits, ']' :: rest) =>
    let n := digits.foldl (fun n c => 10 * n + (c.toNat - '0'.toNat)) 0
    if n < Nat.pow 2 63 then some (if negative then -(n : Int) else n, rest) else none
  | _ => none

/-- Reads the steps that make up the rest of a text. Each takes characters, which the fuel counts. -/
def scanSteps : Nat → List Char → Option (List PathStep)
  | _, [] => some []
  | 0, _ => none
  | fuel + 1, '.' :: rest =>
    match rest.span isNameChar with
    | ([], _) => none
    | (name, rest) => (scanSteps fuel rest).map (.name (String.ofList name) :: ·)
  | fuel + 1, '[' :: rest =>
    match scanIndex rest with
    | some (i, rest) => (scanSteps fuel rest).map (.index i :: ·)
    | none => none
  | _, _ => none

/-- The path that a key stands for. A key that is no path names an entry as it is. -/
def parse (key : String) : SettingPath :=
  let text := key.toList
  match text.span isNameChar with
  | ([], _) => ⟨key, []⟩
  | (name, rest) =>
    match scanSteps rest.length rest with
    | some steps => ⟨String.ofList name, steps⟩
    | none => ⟨key, []⟩

end SettingPath

end Fanout
