import Fanout.Yaml.Token
import Fanout.Yaml.ScalarText

/-! From a YAML text to its tokens. Indentation opens and closes block collections. A key is
recognised only at the colon after it, so the place where a key may have begun is remembered, and
its token is put there later. -/

namespace Fanout.Yaml

/-- The latest place where a key may have begun. -/
structure KeyStart where
  possible : Bool := false
  /-- Something that begins in this column has to be a key. -/
  required : Bool := false
  /-- The number of tokens before it. -/
  tokenCount : Nat := 0
  index : Nat := 0
  line : Nat := 0
  col : Nat := 0

/-- An indentation that is in force. -/
structure Indentation where
  /-- The one before it. -/
  outer : Int
  /-- A block collection was opened with it. -/
  isBlock : Bool

structure Scanner where
  cursor : Cursor
  tokens : List Token := []
  /-- One for every flow collection that is open and one for the block around them, the innermost
  first. -/
  keyStarts : List KeyStart := [{}]
  keyAllowed : Bool := true
  indent : Int := -1
  /-- The innermost first. -/
  indentations : List Indentation := []
  flowLevel : Nat := 0
  /-- The index of a colon that may follow directly on the key before it. -/
  adjacentValue : Nat := 0

namespace Scanner

def emit (t : Token) (s : Scanner) : Scanner :=
  { s with tokens := s.tokens ++ [t] }

def inFlow (s : Scanner) : Bool := 0 < s.flowLevel

def moveTo (cursor : Cursor) (s : Scanner) : Scanner := { s with cursor }

def allowKey (allowed : Bool) (s : Scanner) : Scanner := { s with keyAllowed := allowed }

/-- Passes over blanks, and over a comment to the end of the line. -/
def skipGap (s : Scanner) : Option Scanner :=
  (s.cursor.skipGap true).map fun gap => s.moveTo gap.after

/-- Closes block collections that are indented by more than `col` columns. -/
def unrollWithin (col : Int) : List Indentation → Scanner → Scanner
  | [], s => { s with indentations := [] }
  | i :: rest, s =>
    if col < s.indent then
      let s := { s with indent := i.outer }
      unrollWithin col rest (if i.isBlock then s.emit .blockEnd else s)
    else { s with indentations := i :: rest }

def unroll (col : Int) (s : Scanner) : Scanner :=
  if s.inFlow then s else unrollWithin col s.indentations s

/-- Opens a block collection at a column, unless one is open there; its token goes to the given
place. -/
def roll (col : Nat) (place : Nat) (t : Token) (s : Scanner) : Scanner :=
  if s.inFlow then s
  else
    let s := match s.indentations with
      | i :: rest =>
        if s.indent ≤ (col : Int) && !i.isBlock then { s with indent := i.outer, indentations := rest }
        else s
      | [] => s
    if s.indent < (col : Int) then
      { s with
        indentations := ⟨s.indent, true⟩ :: s.indentations
        indent := col
        tokens := s.tokens.insertIdx place t }
    else s

/-- Asks for one more column of indentation without opening a collection. -/
def rollOne (s : Scanner) : Scanner :=
  if !s.inFlow && (s.indentations.head?.any (·.isBlock)) then
    { s with indentations := ⟨s.indent, false⟩ :: s.indentations, indent := s.indent + 1 }
  else s

/-- Takes back such demands. -/
def unrollOnes : List Indentation → Scanner → Scanner
  | [], s => { s with indentations := [] }
  | i :: rest, s =>
    if i.isBlock then { s with indentations := i :: rest }
    else unrollOnes rest { s with indent := i.outer }

/-- Remembers that a key may begin here. -/
def saveKey (s : Scanner) : Scanner :=
  if s.keyAllowed then
    let required := !s.inFlow && s.indent = s.cursor.col && s.indentations.head?.any (·.isBlock)
    let start : KeyStart :=
      { possible := true, required, tokenCount := s.tokens.length, index := s.cursor.index
        line := s.cursor.line, col := s.cursor.col }
    { s with keyStarts := start :: s.keyStarts.tail }
  else s

/-- Gives up the key that may have begun, if it need not be one. -/
def dropKey (s : Scanner) : Option Scanner :=
  match s.keyStarts with
  | [] => some s
  | k :: rest =>
    if k.possible && k.required then none
    else some { s with keyStarts := { k with possible := false } :: rest }

/-- The longest text between a key and its colon. -/
def longestKey : Nat := 1024

/-- Gives up keys on earlier lines and those that have become too long. -/
def dropStaleKeys (s : Scanner) : Option Scanner :=
  let stale (k : KeyStart) : Bool :=
    k.possible && !s.inFlow
      && (k.line < s.cursor.line || k.index + longestKey < s.cursor.index)
  if s.keyStarts.any fun k => stale k && k.required then none
  else
    some { s with
      keyStarts := s.keyStarts.map fun k => if stale k then { k with possible := false } else k }

/-- Passes over blanks, line breaks and comments before the next token. -/
def skipToToken : Nat → Scanner → Option Scanner
  | 0, s => some s
  | fuel + 1, s =>
    let c := s.cursor
    if c.peek = '\t' && !s.indentations.isEmpty && c.atMargin && (c.col : Int) < s.indent then
      match c.skipGap true with
      | some gap =>
        if gap.after.atBreakOrEnd then skipToToken fuel (s.moveTo gap.after) else none
      | none => none
    else if c.atBlank then skipToToken fuel (s.moveTo c.skipBlank)
    else if c.atBreak then
      let s := s.moveTo c.skipBreak
      skipToToken fuel (if s.inFlow then s else s.allowKey true)
    else if c.peek = '#' then skipToToken fuel (s.moveTo c.skipLine)
    else some s

def toToken (s : Scanner) : Option Scanner :=
  skipToToken (s.cursor.rest.length + 1) s

/-- Closes all block collections before a directive or a document marker. -/
def leaveBlocks (s : Scanner) : Option Scanner :=
  ((s.unroll (-1)).dropKey).map (·.allowKey false)

/-! Directives and tags. -/

/-- Reads a number of at most nine digits in a version. -/
def skipVersionNumber (c : Cursor) : Option Cursor :=
  let (digits, c) := c.takeWhile Char.isDigit
  if digits.isEmpty || 9 < digits.length then none else some c

/-- Reads the handle of a tag, `!`, `!!` or `!name!`. Outside of directives the closing mark may be
missing. -/
def scanHandle (directive : Bool) (c : Cursor) : Option (String × Cursor) :=
  if c.peek ≠ '!' then none
  else
    let (name, after) := (c.skip 1).takeWhile isWordChar
    if after.peek = '!' then some (String.ofList ('!' :: (name ++ ['!'])), after.skip 1)
    else if directive && !name.isEmpty then none
    else some (String.ofList ('!' :: name), after)

/-- Characters of the address that a tag stands for. -/
def isUriChar (c : Char) : Bool :=
  isWordChar c || "#;/?:@&=+$,.!~*'()[]%".toList.contains c

/-- Characters of the part of a tag after its handle. -/
def isTagChar (c : Char) : Bool :=
  isUriChar c && !isFlow c && c ≠ '!'

/-- Reads the bytes after percent signs as characters; other characters stand for themselves. -/
def scanUri (p : Char → Bool) (c : Cursor) : Option (String × Cursor) :=
  let (run, after) := c.takeWhile p
  if run.contains '%' then none else some (String.ofList run, after)

/-- Reads a directive after its percent sign. -/
def scanDirective (c : Cursor) : Option (Token × Cursor) := do
  let (name, c) := c.takeWhile isWordChar
  if name.isEmpty || !c.atGap then none
  if name = ['Y', 'A', 'M', 'L'] then
    let c ← skipVersionNumber c.skipBlanks
    if c.peek ≠ '.' then none
    some (.versionDirective, ← skipVersionNumber (c.skip 1))
  else if name = ['T', 'A', 'G'] then
    let (handle, c) ← scanHandle true c.skipBlanks
    let (target, c) ← scanUri isUriChar c.skipBlanks
    if target.isEmpty || !c.atGap then none
    some (.tagDirective handle target, c)
  else some (.tagDirective "" "", c.skipLine)

def fetchDirective (s : Scanner) : Option Scanner := do
  let s ← s.leaveBlocks
  let (t, c) ← scanDirective (s.cursor.skip 1)
  let s ← (s.moveTo c).skipGap
  if s.cursor.atBreakOrEnd then
    some ((s.moveTo (if s.cursor.atEnd then s.cursor else s.cursor.skipBreak)).emit t)
  else none

/-- Reads a tag. -/
def scanTag (inFlow : Bool) (c : Cursor) : Option (Token × Cursor) := do
  let col := c.col
  let (t, c) ←
    if c.peekAt 1 = '<' then do
      let (target, c) ← scanUri isUriChar (c.skip 2)
      if target.isEmpty || c.peek ≠ '>' then none
      some (Token.tag "" target col, c.skip 1)
    else do
      let (handle, c) ← scanHandle false c
      if 2 ≤ handle.length && handle.endsWith "!" then
        let (suffix, c) ← scanUri isTagChar c
        if suffix.isEmpty then none
        some (Token.tag handle suffix col, c)
      else
        let (more, c) ← scanUri isTagChar c
        let suffix := String.ofList (handle.toList.drop 1) ++ more
        some (if suffix.isEmpty then Token.tag "" "!" col else Token.tag "!" suffix col, c)
  if c.atGap || (inFlow && isFlow c.peek) then some (t, c) else none

def fetchTag (s : Scanner) : Option Scanner := do
  let s := s.saveKey.allowKey false
  let (t, c) ← scanTag s.inFlow s.cursor
  some ((s.moveTo c).emit t)

/-- Reads the name of an anchor or of an alias. -/
def fetchAnchor (isAlias : Bool) (s : Scanner) : Option Scanner :=
  let s := s.saveKey.allowKey false
  let col := s.cursor.col
  let (name, c) := (s.cursor.skip 1).takeWhile fun d => !isBlank d && !isBreak d && !isFlow d
  if name.isEmpty then none
  else
    let name := String.ofList name
    some ((s.moveTo c).emit (if isAlias then .alias name else .anchor name col))

/-! Collections. -/

def fetchDocumentMarker (t : Token) (s : Scanner) : Option Scanner := do
  let s ← s.leaveBlocks
  some ((s.moveTo (s.cursor.skip 3)).emit t)

/-- A document ends; nothing but a comment may follow on the line. -/
def fetchDocumentEnd (s : Scanner) : Option Scanner := do
  let s ← s.fetchDocumentMarker .documentEnd
  let s ← s.skipGap
  if s.cursor.atBreakOrEnd then some s else none

/-- How deep flow collections may nest. -/
def deepestFlow : Nat := 255

def fetchFlowStart (t : Token) (s : Scanner) : Option Scanner :=
  let s := s.saveKey.rollOne
  if s.flowLevel = deepestFlow then none
  else
    let s := { s with flowLevel := s.flowLevel + 1, keyStarts := {} :: s.keyStarts, keyAllowed := true }
    (s.moveTo (s.cursor.skip 1)).skipGap.map (·.emit t)

def fetchFlowEnd (t : Token) (s : Scanner) : Option Scanner := do
  let s ← s.dropKey
  let s := if s.inFlow then
      { s with flowLevel := s.flowLevel - 1, keyStarts := s.keyStarts.tail } else s
  let s ← ((s.allowKey false).moveTo (s.cursor.skip 1)).skipGap
  let s := if s.inFlow then { s with adjacentValue := s.cursor.index } else s
  some (s.emit t)

def fetchFlowEntry (s : Scanner) : Option Scanner := do
  let s ← s.dropKey
  let s ← ((s.allowKey true).moveTo (s.cursor.skip 1)).skipGap
  some (s.emit .flowEntry)

/-- The last token is an anchor or a tag at the very beginning of a line. -/
def endsInOuterProperty (s : Scanner) : Bool :=
  match s.tokens.getLast? with
  | some (.anchor _ col) => col = 0
  | some (.tag _ _ col) => col = 0
  | _ => false

def fetchBlockEntry (s : Scanner) : Option Scanner := do
  if s.inFlow || !s.keyAllowed then none
  if s.endsInOuterProperty && s.cursor.col = 0 && -1 < s.indent then none
  let col := s.cursor.col
  let s := (s.moveTo (s.cursor.skip 1)).roll col s.tokens.length .blockSequenceStart
  let gap ← s.cursor.skipGap true
  if gap.tab && gap.after.peek = '-' && gap.after.gapAt 1 then none
  let s ← (s.moveTo gap.after).skipGap
  let s := if s.cursor.atBreak || isFlow s.cursor.peek then s.rollOne else s
  let s ← s.dropKey
  some ((s.allowKey true).emit .blockEntry)

/-- Passes over spaces, line breaks and comments after a question mark, of which there has to be
one. -/
def skipKeyGap : Nat → Bool → Scanner → Option Scanner
  | 0, _, _ => none
  | fuel + 1, found, s =>
    let c := s.cursor
    if c.peek = ' ' then skipKeyGap fuel true (s.moveTo c.skipBlank)
    else if c.atBreak then
      let s := s.moveTo c.skipBreak
      skipKeyGap fuel true (if s.inFlow then s else s.allowKey true)
    else if c.peek = '#' then skipKeyGap fuel found (s.moveTo c.skipLine)
    else if found && c.peek ≠ '\t' then some s
    else none

def fetchKey (s : Scanner) : Option Scanner := do
  if !s.inFlow && !s.keyAllowed then none
  let s := s.roll s.cursor.col s.tokens.length .blockMappingStart
  let s ← s.dropKey
  let s := s.allowKey (!s.inFlow)
  let s ← skipKeyGap (s.cursor.rest.length + 1) false (s.moveTo (s.cursor.skip 1))
  some (s.emit .key)

def fetchValue (s : Scanner) : Option Scanner := do
  let k := s.keyStarts.headD {}
  let start := s.cursor
  let c := start.skip 1
  let c ←
    if c.peek = '\t' then do
      let gap ← c.skipGap true
      if !gap.space && isWordChar gap.after.peek then none
      some gap.after
    else some c
  let s := s.moveTo c
  if k.possible then
    let s := { s with tokens := s.tokens.insertIdx k.tokenCount .key }
    let s := (s.roll k.col k.tokenCount .blockMappingStart).rollOne
    let s := { s with keyStarts := { k with possible := false } :: s.keyStarts.tail }
    some ((s.allowKey false).emit .value)
  else
    if !s.inFlow && !s.keyAllowed then none
    let s := (s.roll start.col s.tokens.length .blockMappingStart).rollOne
    some ((s.allowKey (!s.inFlow)).emit .value)

/-! Scalars. -/

def fetchBlockScalar (literal : Bool) (s : Scanner) : Option Scanner := do
  let s := (s.saveKey).allowKey true
  let s := unrollOnes s.indentations s
  let (text, c) ← scanBlock literal s.indent (s.cursor.skip 1)
  some ((s.moveTo c).emit (.scalar false (String.ofList text)))

/-- What may follow on the line after a quoted scalar. -/
def mayFollowQuoted (startLine : Nat) (s : Scanner) : Bool :=
  let c := s.cursor
  c.atBreakOrEnd
    || (s.inFlow && (c.peek = ',' || c.peek = '\x7d' || c.peek = ']' || c.peek = ':'))
    || (!s.inFlow && c.peek = ':' && startLine = c.line)

def fetchQuoted (single : Bool) (s : Scanner) : Option Scanner := do
  let s := s.saveKey.allowKey false
  let startLine := s.cursor.line
  let (text, c) ← scanQuoted single s.indent (s.cursor.rest.length + 1) (s.cursor.skip 1)
  let s ← (s.moveTo c).skipGap
  if !s.mayFollowQuoted startLine then none
  let s ← s.toToken
  some ({ s with adjacentValue := s.cursor.index }.emit (.scalar false (String.ofList text)))

def fetchPlain (s : Scanner) : Option Scanner := do
  let s := s.saveKey.allowKey false
  let s := unrollOnes s.indentations s
  let indent := s.indent + 1
  if s.inFlow && (s.cursor.col : Int) < indent then none
  let (text, c) ← scanPlain s.inFlow indent (s.cursor.rest.length + 1) {} s.cursor
  if text.isEmpty then none
  let s := if c.atMargin then s.allowKey true else s
  some ((s.moveTo c).emit (.scalar true (String.ofList text)))

/-! The scanner as a whole. -/

/-- A colon here separates a key from its value. -/
def atValue (s : Scanner) : Bool :=
  s.cursor.gapAt 1
    || (s.inFlow && (isFlow (s.cursor.peekAt 1) || s.cursor.index = s.adjacentValue))

/-- Reads the token that begins here. -/
def fetchToken (s : Scanner) : Option Scanner :=
  let c := s.cursor
  if c.col = 0 && c.peek = '%' then s.fetchDirective
  else if c.atMarker '-' then s.fetchDocumentMarker .documentStart
  else if c.atMarker '.' then s.fetchDocumentEnd
  else if (c.col : Int) < s.indent then none
  else
    match c.peek with
    | '[' => s.fetchFlowStart .flowSequenceStart
    | '\x7b' => s.fetchFlowStart .flowMappingStart
    | ']' => s.fetchFlowEnd .flowSequenceEnd
    | '\x7d' => s.fetchFlowEnd .flowMappingEnd
    | ',' => s.fetchFlowEntry
    | '*' => s.fetchAnchor true
    | '&' => s.fetchAnchor false
    | '!' => s.fetchTag
    | '\'' => s.fetchQuoted true
    | '"' => s.fetchQuoted false
    | '%' | '@' | '\x60' => none
    | '-' => if c.gapAt 1 then s.fetchBlockEntry else s.fetchPlain
    | '?' => if c.gapAt 1 then s.fetchKey else s.fetchPlain
    | ':' => if s.atValue then s.fetchValue else s.fetchPlain
    | '|' => if s.inFlow then s.fetchPlain else s.fetchBlockScalar true
    | '>' => if s.inFlow then s.fetchPlain else s.fetchBlockScalar false
    | _ => s.fetchPlain

/-- The text is at its end. -/
def finish (s : Scanner) : Option (List Token) :=
  if s.keyStarts.any fun k => k.possible && k.required then none
  else some (s.unroll (-1)).tokens

/-- Reads tokens to the end of the text. Every token takes at least one character. -/
def run : Nat → Scanner → Option (List Token)
  | 0, _ => none
  | fuel + 1, s => do
    let s ← s.toToken
    let s ← s.dropStaleKeys
    let s := s.unroll s.cursor.col
    if s.cursor.atEnd then s.finish else run fuel (← s.fetchToken)

end Scanner

/-- The tokens of a text. The text ends at a zero character. -/
def Token.ofText? (text : String) : Option (List Token) :=
  let chars := text.toList.takeWhile (· ≠ '\x00')
  Scanner.run (chars.length + 2) { cursor := { rest := chars } }

end Fanout.Yaml
