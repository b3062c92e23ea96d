import Fanout.Settings.Sources
import Fanout.Settings.Reading
import Fanout.FileTree
import Fanout.Environment

/-! Loading a configuration from layers: a base file, a file for the environment where there is one,
and variables. Later layers are laid over earlier ones. -/

namespace Fanout

/-- The files of a configuration. -/
inductive ConfigFile
  | base
  | environment (e : Environment)
  deriving DecidableEq, Repr

namespace ConfigFile

/-- The name of the file without its extension. -/
def stem : ConfigFile → String
  | .base => "base"
  | .environment e => e.label

def description : ConfigFile → String
  | .base => "base configuration"
  | .environment e => e.label ++ " environment configuration"

/-- Extensions in the order in which they are tried. -/
def extensions : List String := ["yaml", "yml", "json"]

/-- The paths that are tried for a file. -/
def paths (directory : String) (f : ConfigFile) : List String :=
  extensions.map fun e => FileView.join directory (f.stem ++ "." ++ e)

end ConfigFile

/-- Why a file that exists gives no settings. -/
inductive FileFault
  /-- It cannot be read, or its bytes are no text. -/
  | unreadable
  /-- The text is malformed; with the place that the settings would have come from. -/
  | malformed (origin : String)
  deriving DecidableEq, Repr

inductive LoadError
  | missingDirectory (directory : String)
  | missingFile (file : ConfigFile) (directory : String)
  | fileFault (file : ConfigFile) (path : String) (fault : FileFault)
  /-- A variable cannot be read. -/
  | variableFault (message : String)
  | misread (reason : Misreading)
  /-- A key of a mapping is neither a text nor a whole number. -/
  | unsupportedKey
  deriving DecidableEq, Repr

namespace LoadError

/-- The name under which an error is reported. -/
def label : LoadError → String
  | .missingDirectory _ => "MissingConfigurationDirectory"
  | .missingFile .. => "ConfigurationFileMissing"
  | .fileFault .. => "ConfigurationFileLoad"
  | .variableFault _ => "Builder"
  | .misread _ => "Deserialization"
  | .unsupportedKey => "panic"

/-- What is wrong with a file. The texts of the parser and of the file system are not shown. -/
def faultText : FileFault → String
  | .unreadable => "<read error>"
  | .malformed origin => "<parse error> in " ++ origin

def message : LoadError → String
  | .missingDirectory directory =>
    "configuration directory `" ++ directory ++ "` does not exist"
  | .missingFile file directory =>
    "could not locate " ++ file.description ++ " in `" ++ directory ++ "`; attempted: "
      ++ ", ".intercalate ((file.paths directory).map fun p => "`" ++ p ++ "`")
  | .fileFault file path fault =>
    "failed to load " ++ file.description ++ " from `" ++ path ++ "`: " ++ faultText fault
  | .variableFault message => "failed to build configuration: " ++ message
  | .misread reason => "failed to deserialize configuration: " ++ reason.display
  | .unsupportedKey => "internal error: entered unreachable code"

end LoadError

namespace ConfigFile

/-- The first of the paths at which there is a file, with what the file holds. -/
def find? (files : FileView) (directory : String) (f : ConfigFile) :
    Option (String × Option (List UInt8)) :=
  (f.paths directory).findSome? fun path => (files.file? path).map fun content => (path, content)

/-- The settings of a file. -/
def settings (f : ConfigFile) (path : String) (content : Option (List UInt8)) :
    Except LoadError (List (String × Setting)) :=
  match content.bind Text.ofUtf8? with
  | none => .error (.fileFault f path .unreadable)
  | some text =>
    let origin := FileView.normal path
    let entries :=
      if path.endsWith ".json" then Setting.ofJsonText origin text
      else Setting.ofYamlText origin text
    match entries with
    | .ok entries => .ok entries
    | .error .malformed => .error (.fileFault f path (.malformed origin))
    | .error .unsupportedKey => .error .unsupportedKey

/-- The settings of a file where there is one. -/
def settings? (files : FileView) (directory : String) (f : ConfigFile) :
    Except LoadError (Option (List (String × Setting))) :=
  match f.find? files directory with
  | none => .ok none
  | some (path, content) => (f.settings path content).map some

end ConfigFile

/-- The layered settings of a directory. -/
def loadSettings (files : FileView) (vars : List Variable) (directory : String)
    (environment : Environment) : Except LoadError Setting := do
  if !files.isDirectory directory then .error (.missingDirectory directory)
  match ← ConfigFile.settings? files directory .base with
  | none => .error (.missingFile .base directory)
  | some base =>
    let special ← ConfigFile.settings? files directory (.environment environment)
    match Variable.settings vars with
    | .error message => .error (.variableFault message)
    | .ok last =>
      return Setting.layer last (Setting.layer (special.getD []) (Setting.layer base .empty))

/-- Loads a configuration. -/
def loadConfig {α : Type} (reading : Reading α) (files : FileView) (vars : List Variable)
    (directory : String) (environment : Environment) : Except LoadError α := do
  let settings ← loadSettings files vars directory environment
  match reading settings with
  | .ok x => return x
  | .error reason => .error (.misread reason)

end Fanout
