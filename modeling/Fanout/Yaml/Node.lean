import Fanout.Yaml.Tokens
import Fanout.Yaml.Scalar

/-! From the tokens of a YAML text to its documents. -/

namespace Fanout.Yaml

inductive Node
  | scalar (value : ScalarValue)
  | sequence (items : List Node)
  | mapping (entries : List (Node × Node))
  deriving Repr, Inhabited

namespace Node

def null : Node := .scalar .null

def isBad : Node → Bool
  | .scalar .bad => true
  | _ => false

mutual

/-- Equality of nodes; entries of mappings are compared in their order. -/
def same : Node → Node → Bool
  | .scalar a, .scalar b => a = b
  | .sequence xs, .sequence ys => sameAll xs ys
  | .mapping es, .mapping fs => sameEntries es fs
  | _, _ => false

def sameAll : List Node → List Node → Bool
  | [], [] => true
  | x :: xs, y :: ys => same x y && sameAll xs ys
  | _, _ => false

def sameEntries : List (Node × Node) → List (Node × Node) → Bool
  | [], [] => true
  | (a, b) :: es, (c, d) :: fs => same a c && same b d && sameEntries es fs
  | _, _ => false

end

/-- Pairs the nodes of a mapping up as keys and values. A key may not be repeated, and a bad node is
no key. -/
def pairUp : Option Node → List (Node × Node) → List Node → Option Node
  | _, entries, [] => some (.mapping entries)
  | none, entries, n :: rest => pairUp (if n.isBad then none else some n) entries rest
  | some k, entries, n :: rest =>
    if entries.any fun (other, _) => same other k then none
    else pairUp none (entries ++ [(k, n)]) rest

end Node

/-- What is known while the documents are put together. -/
structure Reader where
  tokens : List Token
  /-- Anchors with their numbers, the latest first. -/
  anchors : List (String × Nat) := []
  /-- The nodes of the anchors that are complete. -/
  anchored : List (Nat × Node) := []
  /-- How many anchors there have been. -/
  anchorCount : Nat := 0
  /-- What the handles of tags stand for. -/
  handles : List (String × String) := []

namespace Reader

def peek? (r : Reader) : Option Token := r.tokens.head?

def skip (r : Reader) : Reader := { r with tokens := r.tokens.tail }

/-- Anchors and tag before a node. -/
structure Properties where
  anchor : Option Nat := none
  tag : Option String := none

def register (name : String) (r : Reader) : Nat × Reader :=
  (r.anchorCount,
    { r with anchors := (name, r.anchorCount) :: r.anchors, anchorCount := r.anchorCount + 1 })

/-- The full form of a tag. The first two kinds of handles need no directive. -/
def resolveTag (handle suffix : String) (r : Reader) : Option String :=
  if handle = "!!" then some (basicTags ++ suffix)
  else if handle = "" then some suffix
  else match r.handles.find? (·.1 == handle) with
    | some (_, target) => some (target ++ suffix)
    | none => if handle = "!" then some ("!" ++ suffix) else none

/-- Reads an anchor and a tag in either order, both optional. -/
def properties (r : Reader) : Option (Properties × Reader) :=
  match r.tokens with
  | .anchor name _ :: .tag handle suffix _ :: _ => do
    let tag ← r.resolveTag handle suffix
    let (id, r) := r.skip.skip.register name
    some ({ anchor := some id, tag := some tag }, r)
  | .anchor name _ :: _ =>
    let (id, r) := r.skip.register name
    some ({ anchor := some id }, r)
  | .tag handle suffix _ :: .anchor name _ :: _ => do
    let tag ← r.resolveTag handle suffix
    let (id, r) := r.skip.skip.register name
    some ({ anchor := some id, tag := some tag }, r)
  | .tag handle suffix _ :: _ => do some ({ tag := some (← r.resolveTag handle suffix) }, r.skip)
  | _ => some ({}, r)

/-- A node is complete; its anchor may be used from here on. -/
def complete (p : Properties) (n : Node) (r : Reader) : Node × Reader :=
  match p.anchor with
  | some id => (n, { r with anchored := (id, n) :: r.anchored })
  | none => (n, r)

/-- The meaning of a scalar with its tag. -/
def scalarNode (p : Properties) (plain : Bool) (text : String) : Node :=
  .scalar (if plain then
    match p.tag with
    | some tag => .ofTagged tag text
    | none => .ofPlain text
  else .text text)

/-- The node of an alias. An anchor that is not complete has a bad one. -/
def aliasNode (name : String) (r : Reader) : Option Node :=
  match r.anchors.find? (·.1 == name) with
  | none => none
  | some (_, id) => some (((r.anchored.find? (·.1 == id)).map (·.2)).getD (.scalar .bad))

/-- Where a node is missing, the tokens that may follow. -/
def nextIs (candidates : List Token) (r : Reader) : Bool :=
  match r.peek? with
  | some t => candidates.contains t
  | none => false

mutual

/-- Reads a node. In a block a block collection may begin, and after a key a sequence that is not
indented. -/
def node (block indentless : Bool) : Nat → Reader → Option (Node × Reader)
  | 0, _ => none
  | fuel + 1, r =>
    match r.peek? with
    | some (.alias name) => do some (← r.aliasNode name, r.skip)
    | _ => do
      let (p, r) ← r.properties
      match r.peek? with
      | some (.scalar plain text) => some (r.skip.complete p (scalarNode p plain text))
      | some .flowSequenceStart => do
        let (items, r) ← flowItems true fuel r.skip
        some (r.complete p (.sequence items))
      | some .flowMappingStart => do
        let (nodes, r) ← flowEntries true fuel r.skip
        some (r.complete p (← Node.pairUp none [] nodes))
      | some .blockSequenceStart =>
        if block then do
          let (items, r) ← blockItems fuel r.skip
          some (r.complete p (.sequence items))
        else missing p r
      | some .blockMappingStart =>
        if block then do
          let (nodes, r) ← blockEntries fuel r.skip
          some (r.complete p (← Node.pairUp none [] nodes))
        else missing p r
      | some .blockEntry =>
        if indentless then do
          let (items, r) ← indentlessItems fuel r
          some (r.complete p (.sequence items))
        else missing p r
      | _ => missing p r

/-- No node stands here. After an anchor or a tag that means an empty scalar. -/
def missing (p : Properties) (r : Reader) : Option (Node × Reader) :=
  if p.anchor.isSome || p.tag.isSome then some (r.complete p (scalarNode p true ""))
  else none

/-- Reads a node unless one of these tokens follows, before which an empty one is meant. -/
def nodeUnless (candidates : List Token) (block indentless : Bool) :
    Nat → Reader → Option (Node × Reader)
  | 0, _ => none
  | fuel + 1, r =>
    if r.nextIs candidates then some (.null, r) else node block indentless fuel r

/-- Reads the entries of a block sequence. -/
def blockItems : Nat → Reader → Option (List Node × Reader)
  | 0, _ => none
  | fuel + 1, r =>
    match r.peek? with
    | some .blockEnd => some ([], r.skip)
    | some .blockEntry => do
      let (n, r) ← nodeUnless [.blockEntry, .blockEnd] true false fuel r.skip
      let (rest, r) ← blockItems fuel r
      some (n :: rest, r)
    | _ => none

/-- Reads the entries of a block sequence that is not indented; it ends before anything else. -/
def indentlessItems : Nat → Reader → Option (List Node × Reader)
  | 0, _ => none
  | fuel + 1, r =>
    match r.peek? with
    | some .blockEntry => do
      let (n, r) ← nodeUnless [.blockEntry, .key, .value, .blockEnd] true false fuel r.skip
      let (rest, r) ← indentlessItems fuel r
      some (n :: rest, r)
    | _ => some ([], r)

/-- Reads the keys and values of a block mapping, one after the other. -/
def blockEntries : Nat → Reader → Option (List Node × Reader)
  | 0, _ => none
  | fuel + 1, r =>
    match r.peek? with
    | some .blockEnd => some ([], r.skip)
    | some .key => do
      let (k, r) ← nodeUnless [.key, .value, .blockEnd] true true fuel r.skip
      blockValue k fuel r
    | some .value => blockValue .null fuel r
    | _ => none

/-- Reads the value after a key of a block mapping, and the entries that follow. -/
def blockValue (k : Node) : Nat → Reader → Option (List Node × Reader)
  | 0, _ => none
  | fuel + 1, r => do
    let (v, r) ← match r.peek? with
      | some .value => nodeUnless [.key, .value, .blockEnd] true true fuel r.skip
      | _ => some (.null, r)
    let (rest, r) ← blockEntries fuel r
    some (k :: v :: rest, r)

/-- Reads the keys and values of a flow mapping, one after the other. -/
def flowEntries (first : Bool) : Nat → Reader → Option (List Node × Reader)
  | 0, _ => none
  | fuel + 1, r =>
    match r.peek? with
    | some .flowMappingEnd => some ([], r.skip)
    | t =>
      if !first && t ≠ some .flowEntry then none
      else
        let r := if first then r else r.skip
        match r.peek? with
        | some .flowMappingEnd => some ([], r.skip)
        | some .key => do
          let (k, r) ← nodeUnless [.value, .flowEntry, .flowMappingEnd] false false fuel r.skip
          flowValue k fuel r
        | some .value => flowValue .null fuel r
        | _ => do
          let (k, r) ← node false false fuel r
          let (rest, r) ← flowEntries false fuel r
          some (k :: .null :: rest, r)

/-- Reads the value after a key of a flow mapping, and the entries that follow. -/
def flowValue (k : Node) : Nat → Reader → Option (List Node × Reader)
  | 0, _ => none
  | fuel + 1, r => do
    let (v, r) ← match r.peek? with
      | some .value => nodeUnless [.flowEntry, .flowMappingEnd] false false fuel r.skip
      | _ => some (.null, r)
    let (rest, r) ← flowEntries false fuel r
    some (k :: v :: rest, r)

/-- Reads the items of a flow sequence. A key and a value make a mapping of their own. -/
def flowItems (first : Bool) : Nat → Reader → Option (List Node × Reader)
  | 0, _ => none
  | fuel + 1, r =>
    match r.peek? with
    | some .flowSequenceEnd => some ([], r.skip)
    | t =>
      if first == (t == some .flowEntry) then none
      else
        let r := if first then r else r.skip
        match r.peek? with
        | some .flowSequenceEnd => some ([], r.skip)
        | some .key => do
          let (k, r) ← nodeUnless [.value, .flowEntry, .flowSequenceEnd] false false fuel r.skip
          flowPair k fuel r
        | some .value => flowPair .null fuel r
        | _ => do
          let (n, r) ← node false false fuel r
          let (rest, r) ← flowItems false fuel r
          some (n :: rest, r)

/-- Reads the value of a mapping with one entry within a flow sequence, and the items that follow. -/
def flowPair (k : Node) : Nat → Reader → Option (List Node × Reader)
  | 0, _ => none
  | fuel + 1, r => do
    let (v, r) ← match r.peek? with
      | some .value => nodeUnless [.flowEntry, .flowSequenceEnd] false false fuel r.skip
      | _ => some (.null, r)
    let (rest, r) ← flowItems false fuel r
    some ((← Node.pairUp none [] [k, v]) :: rest, r)

end

/-- Reads the directives before a document. There may be one version, and one address for each
handle. -/
def directives : List Token → Bool → List (String × String) →
    Option (List (String × String) × List Token)
  | .versionDirective :: rest, versioned, handles =>
    if versioned then none else directives rest true handles
  | .tagDirective handle target :: rest, versioned, handles =>
    if handles.any (·.1 == handle) then none
    else directives rest versioned ((handle, target) :: handles)
  | rest, _, handles => some (handles, rest)

def isDirective : Token → Bool
  | .versionDirective | .tagDirective .. => true
  | _ => false

/-- Reads the documents that follow. The first one, and one after a document's explicit end, need no
start of their own. -/
def documents (implicit : Bool) : Nat → Reader → Option (List Node)
  | 0, _ => none
  | fuel + 1, r => do
    let r := { r with tokens := r.tokens.dropWhile (· = Token.documentEnd) }
    match r.peek? with
    | none => some []
    | some t =>
      let explicit := isDirective t || t = Token.documentStart || !implicit
      let (handles, tokens) ← directives r.tokens false []
      let r := { r with tokens, handles, anchors := [] }
      let (n, r) ←
        if explicit then
          if r.peek? = some Token.documentStart then
            let r := r.skip
            match r.peek? with
            | none => some (Node.null, r)
            | some t =>
              if isDirective t || t = Token.documentStart || t = Token.documentEnd then some (Node.null, r)
              else node true false (4 * r.tokens.length + 4) r
          else none
        else node true false (4 * r.tokens.length + 4) r
      let closed := r.peek? = some Token.documentEnd
      if !closed && r.peek?.any isDirective then none
      let rest ← documents closed fuel r
      some (n :: rest)

end Reader

/-- The documents of a text. -/
def Node.documents? (text : String) : Option (List Node) := do
  let tokens ← Token.ofText? text
  Reader.documents true (tokens.length + 2) { tokens }

end Fanout.Yaml
