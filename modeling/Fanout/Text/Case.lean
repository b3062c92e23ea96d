import Fanout.Text.CaseTables

/-! Lower-casing a text. Every character changes by itself, but a capital sigma at the end of a word
becomes the final form of the small letter, and a dotted capital I becomes two characters. -/

namespace Fanout.Text

def isCased (c : Char) : Bool :=
  casedRanges.any fun (first, last) => first ≤ c.toNat && c.toNat ≤ last

def isPassed (c : Char) : Bool :=
  passedRanges.any fun (first, last) => first ≤ c.toNat && c.toNat ≤ last

/-- The lower-case form of a character on its own. -/
def lowerChar (c : Char) : Char :=
  let n := c.toNat
  match lowerRuns.find? fun (first, last, step, _) =>
    first ≤ n && n ≤ last && (n - first) % step == 0 with
  | some (_, _, _, shift) => Char.ofNat ((n : Int) + shift).toNat
  | none => c

/-- The first character that is not passed over has a case. -/
def meetsCased (text : List Char) : Bool :=
  match text.dropWhile isPassed with
  | c :: _ => isCased c
  | [] => false

/-- Lower-cases the rest of a text; `before` holds what precedes it, the nearest character first. -/
def lowerFrom (before : List Char) : List Char → List Char
  | [] => []
  | c :: rest =>
    let here :=
      if c = 'Σ' then [if meetsCased before && !meetsCased rest then 'ς' else 'σ']
      else if c = 'İ' then ['i', '\u0307']
      else [lowerChar c]
    here ++ lowerFrom (c :: before) rest

def lower (s : String) : String :=
  String.ofList (lowerFrom [] s.toList)

end Fanout.Text
