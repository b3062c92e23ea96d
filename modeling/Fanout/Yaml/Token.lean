import Fanout.Yaml.Cursor

/-! The tokens of a YAML text. -/

namespace Fanout.Yaml

inductive Token
  | versionDirective
  | tagDirective (handle tagPrefix : String)
  | documentStart
  | documentEnd
  | blockSequenceStart
  | blockMappingStart
  | blockEnd
  | flowSequenceStart
  | flowSequenceEnd
  | flowMappingStart
  | flowMappingEnd
  | blockEntry
  | flowEntry
  | key
  | value
  | alias (name : String)
  /-- An anchor; the column where it stands comes with it. -/
  | anchor (name : String) (col : Nat)
  | tag (handle suffix : String) (col : Nat)
  /-- A scalar; a plain one may stand for something other than text. -/
  | scalar (plain : Bool) (text : String)
  deriving DecidableEq, Repr

end Fanout.Yaml
