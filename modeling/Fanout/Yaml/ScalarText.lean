import Fanout.Yaml.Cursor
import Fanout.Number.Digits

/-! The texts of scalars in their several styles. Line breaks within plain and quoted scalars are
folded: a single one counts as a space, and of several all but the first are kept. -/

namespace Fanout.Yaml

/-- Blanks and line breaks between two pieces of a scalar. -/
structure Fold where
  blanks : List Char := []
  /-- There was a first line break. -/
  broken : Bool := false
  /-- The line breaks after the first. -/
  later : List Char := []

/-- What stands for the blanks in the text; `folded` tells whether a line was left. -/
def Fold.text (folded : Bool) (f : Fold) : List Char :=
  if folded then
    if f.broken && f.later.isEmpty then [' '] else f.later
  else f.blanks

/-! Quoted scalars. -/

/-- The character of a one-letter escape. -/
def escapedChar? (c : Char) : Option Char :=
  match c with
  | '0' => some '\x00'
  | 'a' => some '\x07'
  | 'b' => some '\x08'
  | 't' | '\t' => some '\t'
  | 'n' => some '\n'
  | 'v' => some '\x0b'
  | 'f' => some '\x0c'
  | 'r' => some '\r'
  | 'e' => some '\x1b'
  | ' ' => some ' '
  | '"' => some '"'
  | '/' => some '/'
  | '\\' => some '\\'
  | 'N' => some '\u0085'
  | '_' => some '\u00a0'
  | 'L' => some '\u2028'
  | 'P' => some '\u2029'
  | _ => none

/-- The number of hexadecimal digits that an escape takes. -/
def escapeLength? (c : Char) : Option Nat :=
  match c with
  | 'x' => some 2
  | 'u' => some 4
  | 'U' => some 8
  | _ => none

/-- Reads what follows the backslash of an escape. -/
def scanEscape (c : Cursor) : Option (Char × Cursor) :=
  match escapedChar? c.peek with
  | some d => if c.atEnd then none else some (d, c.skip 1)
  | none =>
    match escapeLength? c.peek with
    | none => none
    | some n =>
      let digits := (c.rest.drop 1).take n
      if digits.length = n then
        match Number.ofDigits? 16 digits with
        | some code =>
          if code.isValidChar then some (Char.ofNat code, c.skip (n + 1)) else none
        | none => none
      else none

/-- Reads a run without gaps within a quoted scalar; the flag tells that it ended with an escaped
line break. -/
def scanQuotedRun (single : Bool) : Nat → Cursor → Option (List Char × Bool × Cursor)
  | 0, _ => none
  | fuel + 1, c =>
    if c.atGap then some ([], false, c)
    else
      let d := c.peek
      if single then
        if d = '\'' then
          if c.peekAt 1 = '\'' then
            (scanQuotedRun single fuel (c.skip 2)).map fun (s, r) => ('\'' :: s, r)
          else some ([], false, c)
        else (scanQuotedRun single fuel (c.skip 1)).map fun (s, r) => (d :: s, r)
      else if d = '"' then some ([], false, c)
      else if d = '\\' then
        if isBreak (c.peekAt 1) then some ([], true, (c.skip 1).skipBreak)
        else
          match scanEscape (c.skip 1) with
          | some (e, c) => (scanQuotedRun single fuel c).map fun (s, r) => (e :: s, r)
          | none => none
      else (scanQuotedRun single fuel (c.skip 1)).map fun (s, r) => (d :: s, r)

/-- Passes over blanks and line breaks within a quoted scalar. -/
def skipQuotedGap (indent : Int) : Nat → Bool → Fold → Cursor → Option (Bool × Fold × Cursor)
  | 0, _, _, _ => none
  | fuel + 1, folded, f, c =>
    if c.atBlank then
      if folded then
        if c.peek = '\t' && (c.col : Int) < indent then none
        else skipQuotedGap indent fuel folded f c.skipBlank
      else skipQuotedGap indent fuel folded { f with blanks := f.blanks ++ [c.peek] } c.skipBlank
    else if c.atBreak then
      if folded then
        skipQuotedGap indent fuel true { f with later := f.later ++ ['\n'] } c.skipBreak
      else skipQuotedGap indent fuel true { f with blanks := [], broken := true } c.skipBreak
    else some (folded, f, c)

/-- Reads a quoted scalar after its opening quote, up to and with its closing quote. -/
def scanQuoted (single : Bool) (indent : Int) : Nat → Cursor → Option (List Char × Cursor)
  | 0, _ => none
  | fuel + 1, c =>
    if c.atDocumentMarker || c.atEnd || (c.col : Int) < indent then none
    else do
      let (run, folded, c) ← scanQuotedRun single (c.rest.length + 1) c
      if !c.atEnd && c.peek = (if single then '\'' else '"') then some (run, c.skip 1)
      else
        let (folded, f, c) ← skipQuotedGap indent (c.rest.length + 1) folded {} c
        let (rest, c) ← scanQuoted single indent fuel c
        some (run ++ f.text folded ++ rest, c)

/-! Plain scalars. -/

/-- A plain scalar may go on with the next character. -/
def continuesPlain (inFlow : Bool) (c : Cursor) : Bool :=
  if c.peek = ':' then !(c.gapAt 1 || (inFlow && isFlow (c.peekAt 1)))
  else !(inFlow && isFlow c.peek)

/-- Reads a run without gaps of a plain scalar. -/
def scanPlainRun (inFlow : Bool) : Nat → Cursor → List Char × Cursor
  | 0, c => ([], c)
  | fuel + 1, c =>
    if !c.atGap && continuesPlain inFlow c then
      let (s, after) := scanPlainRun inFlow fuel (c.skip 1)
      (c.peek :: s, after)
    else ([], c)

/-- Passes over blanks and line breaks within a plain scalar. -/
def skipPlainGap (indent : Int) : Nat → Fold → Cursor → Option (Fold × Cursor)
  | 0, _, _ => none
  | fuel + 1, f, c =>
    if c.atBlank then
      if !c.atMargin then
        skipPlainGap indent fuel { f with blanks := f.blanks ++ [c.peek] } c.skipBlank
      else if (c.col : Int) < indent && c.peek = '\t' then
        match c.skipGap true with
        | some gap => if gap.after.atBreakOrEnd then skipPlainGap indent fuel f gap.after else none
        | none => none
      else skipPlainGap indent fuel f c.skipBlank
    else if c.atBreak then
      if c.atMargin then
        skipPlainGap indent fuel { f with later := f.later ++ ['\n'] } c.skipBreak
      else skipPlainGap indent fuel { f with blanks := [], broken := true } c.skipBreak
    else some (f, c)

/-- Reads a plain scalar whose lines are indented by at least `indent` columns. -/
def scanPlain (inFlow : Bool) (indent : Int) : Nat → Fold → Cursor → Option (List Char × Cursor)
  | 0, _, _ => none
  | fuel + 1, f, c =>
    if c.atDocumentMarker || c.peek = '#' then some ([], c)
    else if inFlow && c.peek = '-' && isFlow (c.peekAt 1) then none
    else
      let (run, after) := scanPlainRun inFlow (c.rest.length + 1) c
      let (text, f) := if run.isEmpty then ([], f) else (f.text c.atMargin ++ run, {})
      if !(after.atBlank || after.atBreak) then some (text, after)
      else
        match skipPlainGap indent (after.rest.length + 1) f after with
        | none => none
        | some (f, c) =>
          if !inFlow && (c.col : Int) < indent then some (text, c)
          else (scanPlain inFlow indent fuel f c).map fun (rest, c) => (text ++ rest, c)

/-! Block scalars. -/

/-- What becomes of the line breaks at the end of a block scalar. -/
inductive Chomping
  | strip
  | clip
  | keep
  deriving DecidableEq, Repr

/-- Reads the signs after the indicator of a block scalar: the chomping and the indentation, in
either order. -/
def scanBlockHeader (c : Cursor) : Option (Chomping × Nat × Cursor) :=
  let chomping (d : Char) : Option Chomping :=
    if d = '+' then some .keep else if d = '-' then some .strip else none
  match chomping c.peek with
  | some m =>
    let d := c.peekAt 1
    if d.isDigit then if d = '0' then none else some (m, Number.digitValue d, c.skip 2)
    else some (m, 0, c.skip 1)
  | none =>
    let d := c.peek
    if d.isDigit then
      if d = '0' then none
      else match chomping (c.peekAt 1) with
        | some m => some (m, Number.digitValue d, c.skip 2)
        | none => some (.clip, Number.digitValue d, c.skip 1)
    else some (.clip, 0, c)

/-- Passes over the indentation of the next line that is not empty, keeping the breaks of those that
are. -/
def skipBlockIndent (indent : Nat) : Nat → Cursor → List Char × Cursor
  | 0, c => ([], c)
  | fuel + 1, c =>
    let n := min (indent - c.col) (c.rest.takeWhile (· = ' ')).length
    let c := { c with rest := c.rest.drop n, index := c.index + n, col := c.col + n }
    if c.atBreak then
      let (breaks, c) := skipBlockIndent indent fuel c.skipBreak
      ('\n' :: breaks, c)
    else ([], c)

/-- Finds the first line that is not empty, and the widest indentation up to there. -/
def findBlockIndent (widest : Nat) : Nat → Cursor → Nat × List Char × Cursor
  | 0, c => (widest, [], c)
  | fuel + 1, c =>
    let c := c.skipSpaces
    let widest := max widest c.col
    if c.atBreak then
      let (widest, breaks, c) := findBlockIndent widest fuel c.skipBreak
      (widest, '\n' :: breaks, c)
    else (widest, [], c)

/-- The lines of a block scalar. -/
structure BlockLines where
  text : List Char := []
  /-- The break after the last line that is not empty. -/
  lastBreak : List Char := []
  /-- The breaks of the empty lines after it. -/
  emptyLines : List Char
  /-- That line began with a blank. -/
  blankStart : Bool := false

/-- Reads the lines of a block scalar that are indented by `indent` columns. -/
def scanBlockLines (literal : Bool) (indent : Nat) : Nat → BlockLines → Cursor → BlockLines × Cursor
  | 0, b, c => (b, c)
  | fuel + 1, b, c =>
    if c.col = indent && !c.atEnd && !(indent = 0 && c.atDocumentMarker) then
      let blank := c.atBlank
      let between :=
        if !literal && !b.lastBreak.isEmpty && !b.blankStart && !blank then
          if b.emptyLines.isEmpty then [' '] else b.emptyLines
        else b.lastBreak ++ b.emptyLines
      let (line, c) := c.takeWhile fun d => !isBreak d
      let text := b.text ++ between ++ line
      if c.atEnd then ({ text, lastBreak := [], emptyLines := [], blankStart := blank }, c)
      else
        let (breaks, c) := skipBlockIndent indent (c.rest.length + 1) c.skipBreak
        scanBlockLines literal indent fuel
          { text, lastBreak := ['\n'], emptyLines := breaks, blankStart := blank } c
    else (b, c)

/-- Reads a block scalar after its indicator, within a collection that is indented by `outer`
columns. -/
def scanBlock (literal : Bool) (outer : Int) (c : Cursor) : Option (List Char × Cursor) := do
  let startLine := c.line
  let (chomping, increment, c) ← scanBlockHeader c
  let c := (← c.skipGap true).after
  if !c.atBreakOrEnd then none
  let (firstBreak, c) := if c.atBreak then (['\n'], c.skipBreak) else ([], c)
  if c.peek = '\t' then none
  let fuel := c.rest.length + 1
  let (indent, breaks, c) :=
    if increment = 0 then
      let (widest, breaks, c) := findBlockIndent 0 fuel c
      (max (max widest (outer + 1).toNat) (if 0 < outer then 1 else 0), breaks, c)
    else
      let indent := if 0 ≤ outer then outer.toNat + increment else increment
      let (breaks, c) := skipBlockIndent indent fuel c
      (indent, breaks, c)
  if c.atEnd then
    let text := match chomping with
      | .strip => []
      | .clip => if c.line = startLine then [] else firstBreak
      | .keep =>
        if c.line = startLine then [] else if breaks.isEmpty then firstBreak else breaks
    some (text, c)
  else if c.col < indent && outer < (c.col : Int) then none
  else
    let (b, c) := scanBlockLines literal indent (c.rest.length + 1) { emptyLines := breaks } c
    let missing := if c.atEnd && max indent 1 ≤ c.col then ['\n'] else []
    some (match chomping with
      | .strip => (b.text, c)
      | .clip => (b.text ++ b.lastBreak ++ missing, c)
      | .keep => (b.text ++ b.lastBreak ++ missing ++ b.emptyLines, c))

end Fanout.Yaml
