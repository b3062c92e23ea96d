import Fanout.Settings.Setting
import Fanout.Json.Reader
import Fanout.Yaml.Node
import Fanout.Text.Quoted

/-! Where settings come from: texts in JSON or YAML, and variables. -/

namespace Fanout

/-- Why a text gives no settings. -/
inductive SourceFault
  | malformed
  /-- A key of a mapping is neither a text nor a whole number. -/
  | unsupportedKey
  deriving DecidableEq, Repr

namespace Setting

/-- A whole number beyond 64 bits with a sign becomes a float. -/
def integerScalar (n : Int) : Scalar :=
  if -(Nat.pow 2 63 : Int) ≤ n && n < (Nat.pow 2 63 : Int) then .integer n
  else .float (if 0 ≤ n then Float.ofNat n.toNat else -(Float.ofNat n.natAbs))

mutual

/-- The settings of a JSON value. -/
def ofJson (origin : String) : Json → Setting
  | .null => .scalar origin .nil
  | .bool b => .scalar origin (.bool b)
  | .integer n => .scalar origin (integerScalar n)
  | .float x => .scalar origin (.float x)
  | .string s => .scalar origin (.text s)
  | .array items => .array origin (ofJsonItems origin items)
  | .object members => .table origin (ofJsonMembers origin members [])

def ofJsonItems (origin : String) : List Json → List Setting
  | [] => []
  | v :: rest => ofJson origin v :: ofJsonItems origin rest

/-- The entries of an object; of those with one name the last one counts. -/
def ofJsonMembers (origin : String) :
    List (String × Json) → List (String × Setting) → List (String × Setting)
  | [], entries => entries
  | (name, v) :: rest, entries =>
    ofJsonMembers origin rest (putEntry name (ofJson origin v) entries)

end

/-- The scalar of a YAML scalar. -/
def scalarOf : Yaml.ScalarValue → Except SourceFault Scalar
  | .null | .bad => .ok .nil
  | .bool b => .ok (.bool b)
  | .integer n => .ok (.integer n)
  | .real text => match Number.parseFloat? text with
    | some x => .ok (.float x)
    | none => .error .malformed
  | .text s => .ok (.text s)

/-- The name that a key stands for. -/
def keyName : Yaml.Node → Except SourceFault String
  | .scalar (.text s) => .ok s
  | .scalar (.integer n) => .ok (toString n)
  | _ => .error .unsupportedKey

mutual

/-- The settings of a YAML node. -/
def ofNode (origin : String) : Yaml.Node → Except SourceFault Setting
  | .scalar v => (scalarOf v).map (.scalar origin)
  | .sequence items => (ofNodes origin items).map (.array origin)
  | .mapping entries => (ofEntries origin entries []).map (.table origin)

def ofNodes (origin : String) : List Yaml.Node → Except SourceFault (List Setting)
  | [] => .ok []
  | n :: rest => do return (← ofNode origin n) :: (← ofNodes origin rest)

/-- The entries of a mapping; of those with one name the last one counts. -/
def ofEntries (origin : String) :
    List (Yaml.Node × Yaml.Node) → List (String × Setting) →
      Except SourceFault (List (String × Setting))
  | [], entries => .ok entries
  | (k, v) :: rest, entries => do
    let name ← keyName k
    let v ← ofNode origin v
    ofEntries origin rest (putEntry name v entries)

end

/-- The entries of a table. -/
def tableEntries : Setting → Except SourceFault (List (String × Setting))
  | .table _ entries => .ok entries
  | _ => .error .malformed

/-- The settings of a JSON text, which has to be an object. -/
def ofJsonText (origin text : String) : Except SourceFault (List (String × Setting)) :=
  match Json.parse? text.toList with
  | some v => tableEntries (ofJson origin v)
  | none => .error .malformed

/-- The settings of a YAML text, which has to be a mapping. A text without a document has none. -/
def ofYamlText (origin text : String) : Except SourceFault (List (String × Setting)) :=
  match Yaml.Node.documents? text with
  | some [] => .ok []
  | some [n] => (ofNode origin n).bind tableEntries
  | _ => .error .malformed

/-- Lays settings over a root; their names are paths. -/
def layer (entries : List (String × Setting)) (root : Setting) : Setting :=
  entries.foldl (fun root (name, value) => set (SettingPath.parse name) value root) root

end Setting

/-- A variable with its bytes. -/
structure Variable where
  name : String
  value : List UInt8

namespace Variable

/-- The beginning of the names of variables that are settings, in lower case. -/
def settingPrefix : String := "app_"

/-- The path that a key stands for: a double underscore separates its steps, as a point does within a
path. -/
def pathChars : List Char → List Char
  | '_' :: '_' :: rest => '.' :: pathChars rest
  | c :: rest => c :: pathChars rest
  | [] => []

/-- Where settings from variables come from. -/
def origin : String := "the environment"

/-- The value of a variable: a truth value, a whole number, a float or a text. -/
def scalarOf (text : String) : Scalar :=
  let word := Text.lower text
  if word = "true" then .bool true
  else if word = "false" then .bool false
  else match Number.signedWord? 10 text.toList with
    | some n => .integer n
    | none => match Number.parseFloat? text with
      | some x => .float x
      | none => .text text

/-- The key that the name of a variable stands for, if it is a setting. -/
def key? (v : Variable) : Option String :=
  let name := Text.lower v.name
  if name.startsWith settingPrefix then
    some (String.ofList (name.toList.drop settingPrefix.length))
  else none

/-- What is said about a value that is no text. -/
def unreadableMessage (key : String) (value : List UInt8) : String :=
  "env variable " ++ Text.quoted key ++ " contains non-Unicode data: " ++ Text.quotedBytes value

/-- The settings of variables. The first value that is no text is reported. -/
def settings : List Variable → Except String (List (String × Setting))
  | [] => .ok []
  | v :: rest =>
    match v.key? with
    | none => settings rest
    | some key =>
      match Text.ofUtf8? v.value with
      | none => .error (unreadableMessage key v.value)
      | some text => do
        let path := String.ofList (pathChars key.toList)
        return (path, .scalar origin (scalarOf text)) :: (← settings rest)

/-- The bytes of the variable with a name, if it is set. -/
def bytes? (name : String) (vs : List Variable) : Option (List UInt8) :=
  (vs.find? (·.name == name)).map (·.value)

/-- The text of the variable with a name, if there is one. -/
def text? (name : String) (vs : List Variable) : Option String :=
  (bytes? name vs).bind Text.ofUtf8?

end Variable

end Fanout
