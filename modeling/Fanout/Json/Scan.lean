import Fanout.Json.Number

/-! The lexical parts of a JSON text: blanks, words and strings. Each scanner takes the characters
that are left and gives what it read with the characters after it. -/

namespace Fanout.Json

/-- Blanks between tokens. -/
def isBlank (c : Char) : Bool :=
  c = ' ' || c = '\n' || c = '\t' || c = '\r'

def skipBlanks (text : List Char) : List Char :=
  text.dropWhile isBlank

/-- Reads exactly the given characters. -/
def scanWord : List Char → List Char → Option (List Char)
  | [], text => some text
  | w :: ws, c :: text => if w = c then scanWord ws text else none
  | _ :: _, [] => none

/-- The character that stands for a one-letter escape. -/
def simpleEscape (c : Char) : Option Char :=
  match c with
  | '"' => some '"'
  | '\\' => some '\\'
  | '/' => some '/'
  | 'b' => some '\x08'
  | 'f' => some '\x0c'
  | 'n' => some '\n'
  | 'r' => some '\r'
  | 't' => some '\t'
  | _ => none

/-- Where a scanner is within a string. -/
inductive StringState
  | plain
  | escape
  /-- Within a four-digit escape: the first half of a pair, digits left, value so far. -/
  | hex (high : Option Nat) (left : Nat) (value : Nat)
  /-- After the first half of a pair, before the backslash of the second. -/
  | pairBackslash (high : Nat)
  | pairLetter (high : Nat)

/-- The first half of a pair of code units. -/
def isHigh (n : Nat) : Bool :=
  0xD800 ≤ n && n < 0xDC00

/-- The second half of a pair of code units. -/
def isLow (n : Nat) : Bool :=
  0xDC00 ≤ n && n < 0xE000

/-- Reads the inside of a string up to its closing quote. The halves of a pair stand only
together. -/
def scanString : StringState → List Char → Option (List Char × List Char)
  | _, [] => none
  | .plain, c :: rest =>
    if c = '"' then some ([], rest)
    else if c = '\\' then scanString .escape rest
    else if c < ' ' then none
    else (scanString .plain rest).map fun (s, r) => (c :: s, r)
  | .escape, c :: rest =>
    match simpleEscape c with
    | some d => (scanString .plain rest).map fun (s, r) => (d :: s, r)
    | none => if c = 'u' then scanString (.hex none 3 0) rest else none
  | .hex high (left + 1) value, c :: rest =>
    match Number.hexValue? c with
    | some d => scanString (.hex high left (16 * value + d)) rest
    | none => none
  | .hex high 0 value, c :: rest =>
    match Number.hexValue? c with
    | none => none
    | some d =>
      let n := 16 * value + d
      match high with
      | none =>
        if isHigh n then scanString (.pairBackslash n) rest
        else if isLow n then none
        else (scanString .plain rest).map fun (s, r) => (Char.ofNat n :: s, r)
      | some h =>
        if isLow n then
          (scanString .plain rest).map fun (s, r) =>
            (Char.ofNat (0x10000 + (h - 0xD800) * 0x400 + (n - 0xDC00)) :: s, r)
        else none
  | .pairBackslash h, c :: rest => if c = '\\' then scanString (.pairLetter h) rest else none
  | .pairLetter h, c :: rest => if c = 'u' then scanString (.hex (some h) 3 0) rest else none

/-- Where a scanner is within a string whose value does not matter. -/
inductive SkipState
  | plain
  | escape
  | hex (left : Nat)

/-- Passes over the inside of a string. Escapes are checked one by one; halves of pairs may stand
alone. -/
def skipString : SkipState → List Char → Option (List Char)
  | _, [] => none
  | .plain, c :: rest =>
    if c = '"' then some rest
    else if c = '\\' then skipString .escape rest
    else if c < ' ' then none
    else skipString .plain rest
  | .escape, c :: rest =>
    if (simpleEscape c).isSome then skipString .plain rest
    else if c = 'u' then skipString (.hex 3) rest
    else none
  | .hex left, c :: rest =>
    if (Number.hexValue? c).isSome then
      match left with
      | 0 => skipString .plain rest
      | n + 1 => skipString (.hex n) rest
    else none

/-- Reads a string with its opening quote. -/
def scanQuoted : List Char → Option (String × List Char)
  | '"' :: rest => (scanString .plain rest).map fun (s, r) => (String.ofList s, r)
  | _ => none

/-- Reads the items of a bracketed sequence after its opening bracket, separated by commas. The
fuel bounds the number of items. -/
def scanItems {α : Type} (close : Char) (item : List Char → Option (α × List Char)) :
    Nat → List Char → Option (List α × List Char)
  | 0, _ => none
  | fuel + 1, text =>
    match item text with
    | none => none
    | some (x, rest) =>
      match skipBlanks rest with
      | c :: rest =>
        if c = close then some ([x], rest)
        else if c = ',' then
          (scanItems close item fuel (skipBlanks rest)).map fun (xs, r) => (x :: xs, r)
        else none
      | [] => none

/-- Reads a bracketed sequence after its opening bracket; it may be empty. -/
def scanSequence {α : Type} (close : Char) (item : List Char → Option (α × List Char))
    (text : List Char) : Option (List α × List Char) :=
  match skipBlanks text with
  | [] => none
  | c :: rest =>
    if c = close then some ([], rest) else scanItems close item (rest.length + 1) (c :: rest)

end Fanout.Json
