import Fanout.Json.Scan

/-! Passing over a value whose content does not matter. Its form is checked, but numbers may be out
of range and brackets may nest as deep as the text allows. -/

namespace Fanout.Json

/-- A name in quotes, blanks and a colon. -/
def skipName (text : List Char) : Option (List Char) :=
  match skipBlanks text with
  | '"' :: rest =>
    match (skipString .plain rest).map skipBlanks with
    | some (':' :: rest) => some rest
    | _ => none
  | _ => none

/-- Passes over a number, a word or a string. -/
def skipAtom (text : List Char) : Option (List Char) :=
  match text with
  | 'n' :: rest => scanWord ['u', 'l', 'l'] rest
  | 't' :: rest => scanWord ['r', 'u', 'e'] rest
  | 'f' :: rest => scanWord ['a', 'l', 's', 'e'] rest
  | '"' :: rest => skipString .plain rest
  | _ => (scanNumber text).map (·.2)

/-- What a walk over a value expects next. -/
inductive SkipTask
  | value
  /-- Just after an opening bracket, which may be closed at once. -/
  | valueOrClose
  /-- After a value. -/
  | commaOrClose

/-- Walks on until all brackets are closed; `open` holds the closing brackets that are still to come,
the innermost first, true for those of objects. Every round takes at least one character. -/
def skipWithin : Nat → SkipTask → List Bool → List Char → Option (List Char)
  | 0, _, _, _ => none
  | _ + 1, .commaOrClose, [], text => some text
  | fuel + 1, .commaOrClose, isObject :: pending, text =>
    match skipBlanks text with
    | ',' :: rest =>
      if isObject then (skipName rest).bind (skipWithin fuel .value (isObject :: pending))
      else skipWithin fuel .value (isObject :: pending) rest
    | ']' :: rest => if isObject then none else skipWithin fuel .commaOrClose pending rest
    | '\x7d' :: rest => if isObject then skipWithin fuel .commaOrClose pending rest else none
    | _ => none
  | fuel + 1, .valueOrClose, pending, text =>
    match pending, skipBlanks text with
    | true :: outer, '\x7d' :: rest => skipWithin fuel .commaOrClose outer rest
    | true :: _, text => (skipName text).bind (skipWithin fuel .value pending)
    | false :: outer, ']' :: rest => skipWithin fuel .commaOrClose outer rest
    | _, text => skipWithin fuel .value pending text
  | fuel + 1, .value, pending, text =>
    match skipBlanks text with
    | '[' :: rest => skipWithin fuel .valueOrClose (false :: pending) rest
    | '\x7b' :: rest => skipWithin fuel .valueOrClose (true :: pending) rest
    | text => (skipAtom text).bind (skipWithin fuel .commaOrClose pending)

/-- Passes over one value and the blanks before it. -/
def skipValue (text : List Char) : Option (List Char) :=
  skipWithin (2 * text.length + 2) .value [] text

end Fanout.Json
