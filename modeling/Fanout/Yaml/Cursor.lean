/-! A place in a YAML text: what is left of it, and where in its line it is. -/

namespace Fanout.Yaml

structure Cursor where
  rest : List Char
  index : Nat := 0
  line : Nat := 0
  col : Nat := 0
  /-- Nothing but blanks precedes on this line. -/
  atMargin : Bool := true
  deriving Repr

def isBlank (c : Char) : Bool :=
  c = ' ' || c = '\t'

def isBreak (c : Char) : Bool :=
  c = '\n' || c = '\r'

/-- Characters with a meaning of their own within flow collections. -/
def isFlow (c : Char) : Bool :=
  c = ',' || c = '[' || c = ']' || c = '\x7b' || c = '\x7d'

/-- Letters, digits, underscore and hyphen of ASCII. -/
def isWordChar (c : Char) : Bool :=
  c.isAlphanum || c = '_' || c = '-'

namespace Cursor

/-- The character that comes after `n` others; the end of the text counts as a zero character. -/
def peekAt (n : Nat) (c : Cursor) : Char :=
  (c.rest.drop n).headD '\x00'

def peek (c : Cursor) : Char := c.peekAt 0

def atEnd (c : Cursor) : Bool := c.rest.isEmpty

def atBlank (c : Cursor) : Bool := isBlank c.peek

def atBreak (c : Cursor) : Bool := isBreak c.peek

def atBreakOrEnd (c : Cursor) : Bool := c.atBreak || c.atEnd

/-- A blank, a line break or the end comes after `n` characters. -/
def gapAt (n : Nat) (c : Cursor) : Bool :=
  match c.rest.drop n with
  | [] => true
  | d :: _ => isBlank d || isBreak d

def atGap (c : Cursor) : Bool := c.gapAt 0

/-- Passes over one blank. -/
def skipBlank (c : Cursor) : Cursor :=
  { c with rest := c.rest.tail, index := c.index + 1, col := c.col + 1 }

/-- Passes over `n` characters that are no blanks and no line breaks. -/
def skip (n : Nat) (c : Cursor) : Cursor :=
  { c with rest := c.rest.drop n, index := c.index + n, col := c.col + n, atMargin := false }

/-- Passes over a line break. -/
def skipBreak (c : Cursor) : Cursor :=
  let n := if c.peek = '\r' && c.peekAt 1 = '\n' then 2 else 1
  { rest := c.rest.drop n, index := c.index + n, line := c.line + 1, col := 0, atMargin := true }

/-- The longest run of characters with a property, and the place after it. -/
def takeWhile (p : Char → Bool) (c : Cursor) : List Char × Cursor :=
  let run := c.rest.takeWhile p
  (run, if run.isEmpty then c else c.skip run.length)

/-- Passes over the rest of the line. -/
def skipLine (c : Cursor) : Cursor :=
  (c.takeWhile fun d => !isBreak d).2

def skipSpaces (c : Cursor) : Cursor :=
  let n := (c.rest.takeWhile (· = ' ')).length
  { c with rest := c.rest.drop n, index := c.index + n, col := c.col + n }

def skipBlanks (c : Cursor) : Cursor :=
  let n := (c.rest.takeWhile isBlank).length
  { c with rest := c.rest.drop n, index := c.index + n, col := c.col + n }

/-- Three equal characters at the start of a line, followed by a gap. -/
def atMarker (d : Char) (c : Cursor) : Bool :=
  c.col = 0 && c.peek = d && c.peekAt 1 = d && c.peekAt 2 = d && c.gapAt 3

/-- A line that begins or ends a document. -/
def atDocumentMarker (c : Cursor) : Bool :=
  c.atMarker '-' || c.atMarker '.'

/-- The blanks and the comment that were found before the end of a line. -/
structure Gap where
  tab : Bool := false
  space : Bool := false
  after : Cursor

/-- Passes over blanks and a comment, which needs a blank before it. -/
def skipGap (tabs : Bool) (c : Cursor) : Option Gap :=
  let run := c.rest.takeWhile fun d => d = ' ' || (tabs && d = '\t')
  let after := { c with
    rest := c.rest.drop run.length, index := c.index + run.length, col := c.col + run.length }
  let gap : Gap := { tab := run.contains '\t', space := run.contains ' ', after }
  if after.peek = '#' then
    if run.isEmpty then none else some { gap with after := after.skipLine }
  else some gap

end Cursor

end Fanout.Yaml
