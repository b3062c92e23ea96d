import Fanout.Json.Value
import Fanout.Json.Scan

/-! Reading any JSON text into a value. Nesting is limited; a repeated name is kept and the last
one counts. -/

namespace Fanout.Json

/-- Reads a number into a value. -/
def scanNumberValue (text : List Char) : Option (Json × List Char) := do
  let (n, rest) ← scanNumber text
  let v ← n.value
  match v with
  | .integer i => some (.integer i, rest)
  | .float x => some (.float x, rest)

/-- Reads a name and a colon, then a value. -/
def scanMember {α : Type} (value : List Char → Option (α × List Char)) (text : List Char) :
    Option ((String × α) × List Char) :=
  match scanQuoted text with
  | none => none
  | some (name, rest) =>
    match skipBlanks rest with
    | ':' :: rest => (value (skipBlanks rest)).map fun (x, r) => ((name, x), r)
    | _ => none

/-- Reads a value at whose first character the text stands; brackets may nest `depth` deep. -/
def scanValue : Nat → List Char → Option (Json × List Char)
  | depth, text =>
    match text with
    | 'n' :: rest => (scanWord ['u', 'l', 'l'] rest).map fun r => (.null, r)
    | 't' :: rest => (scanWord ['r', 'u', 'e'] rest).map fun r => (.bool true, r)
    | 'f' :: rest => (scanWord ['a', 'l', 's', 'e'] rest).map fun r => (.bool false, r)
    | '"' :: rest => (scanString .plain rest).map fun (s, r) => (.string (String.ofList s), r)
    | '[' :: rest =>
      match depth with
      | 0 => none
      | d + 1 => (scanSequence ']' (scanValue d) rest).map fun (xs, r) => (.array xs, r)
    | '\x7b' :: rest =>
      match depth with
      | 0 => none
      | d + 1 =>
        (scanSequence '\x7d' (scanMember (scanValue d)) rest).map fun (ms, r) => (.object ms, r)
    | _ => scanNumberValue text

/-- How deep brackets may nest. -/
def maxDepth : Nat := 127

/-- Reads a whole text; blanks may surround the value. -/
def parse? (text : List Char) : Option Json :=
  match scanValue maxDepth (skipBlanks text) with
  | some (v, rest) => if skipBlanks rest = [] then some v else none
  | none => none

end Fanout.Json
