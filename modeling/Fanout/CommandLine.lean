import Fanout.Config

/-! The command line of the runner: options that override the configuration, each of which may be
given once. -/

namespace Fanout

/-- Why a command line is not carried out. -/
inductive UsageError
  | unknownArgument
  /-- A value is missing, or is not one of those that are possible. -/
  | invalidValue
  /-- A value cannot be read. -/
  | valueValidation
  /-- An option is given twice. -/
  | argumentConflict
  /-- A value is given to an option that takes none. -/
  | tooManyValues
  | displayHelp
  | displayVersion
  deriving DecidableEq, Repr

def UsageError.label : UsageError → String
  | .unknownArgument => "UnknownArgument"
  | .invalidValue => "InvalidValue"
  | .valueValidation => "ValueValidation"
  | .argumentConflict => "ArgumentConflict"
  | .tooManyValues => "TooManyValues"
  | .displayHelp => "DisplayHelp"
  | .displayVersion => "DisplayVersion"

/-- What a command line asks for. -/
structure CommandLine where
  configDir : String := "configuration"
  tasks : Option Nat := none
  want : Option Nat := none
  workers : Option Nat := none
  timeoutMs : Option Nat := none
  maxTaskMs : Option Nat := none
  shutdownMode : Option ShutdownMode := none
  metricsAddress : Option SocketAddress := none
  deriving DecidableEq, Repr

namespace CommandLine

/-- The options that take a value. -/
inductive Key
  | configDir
  | tasks
  | want
  | workers
  | timeoutMs
  | maxTaskMs
  | shutdownMode
  | metricsAddress
  deriving DecidableEq, Repr

/-- The name of an option, without the hyphens before it. -/
def Key.name : Key → String
  | .configDir => "config-dir"
  | .tasks => "tasks"
  | .want => "want"
  | .workers => "workers"
  | .timeoutMs => "timeout-ms"
  | .maxTaskMs => "max-task-ms"
  | .shutdownMode => "shutdown-mode"
  | .metricsAddress => "metrics-addr"

def Key.all : List Key :=
  [.configDir, .tasks, .want, .workers, .timeoutMs, .maxTaskMs, .shutdownMode, .metricsAddress]

/-- What an argument that begins with hyphens names. -/
inductive Option?
  | valued (k : Key)
  | help
  | version
  | unknown
  deriving DecidableEq, Repr

def longOption (name : String) : Option? :=
  match Key.all.find? (·.name == name) with
  | some k => .valued k
  | none => if name = "help" then .help else if name = "version" then .version else .unknown

/-- The name of a shutdown mode on the command line. -/
def modeName : ShutdownMode → String
  | .gracefulDrain => "graceful-drain"
  | .abandon => "abandon"

def number (value : String) : Except UsageError Nat :=
  match Number.word? value.toList with
  | some n => .ok n
  | none => .error .valueValidation

/-- Reads the value of an option. -/
def setValue (k : Key) (value : String) (c : CommandLine) : Except UsageError CommandLine :=
  match k with
  | .configDir => if value = "" then .error .invalidValue else .ok { c with configDir := value }
  | .tasks => (number value).map fun n => { c with tasks := some n }
  | .want => (number value).map fun n => { c with want := some n }
  | .workers => (number value).map fun n => { c with workers := some n }
  | .timeoutMs => (number value).map fun n => { c with timeoutMs := some n }
  | .maxTaskMs => (number value).map fun n => { c with maxTaskMs := some n }
  | .shutdownMode =>
    match ShutdownMode.all.find? (modeName · == value) with
    | some m => .ok { c with shutdownMode := some m }
    | none => .error .invalidValue
  | .metricsAddress =>
    match SocketAddress.parse? value with
    | some a => .ok { c with metricsAddress := some a }
    | none => .error .valueValidation

/-- How far a command line is read. -/
structure Progress where
  line : CommandLine := {}
  /-- Options that were given. -/
  given : List Key := []
  /-- The last option, with its value once that is there. It is looked at when the next option comes,
  or in the end. -/
  pending : Option (Key × Option String) := none

namespace Progress

/-- Takes an option with its value. -/
def assign (k : Key) (value : String) (p : Progress) : Except UsageError Progress :=
  if p.given.contains k then .error .argumentConflict
  else (setValue k value p.line).map fun line => { line, given := k :: p.given }

/-- Looks at the last option. -/
def settle (p : Progress) : Except UsageError Progress :=
  match p.pending with
  | none => .ok p
  | some (_, none) => .error .invalidValue
  | some (k, some value) => p.assign k value

/-- Asks for help or for the version, if what comes before is in order. -/
def ask (e : UsageError) (p : Progress) : Except UsageError Progress := do
  let _ ← p.settle
  .error e

/-- Takes an argument that begins with two hyphens: an option, perhaps with a value after an equals
sign. -/
def long (body : List Char) (p : Progress) : Except UsageError Progress :=
  let name := String.ofList (body.takeWhile (· ≠ '='))
  let value := match body.dropWhile (· ≠ '=') with
    | _ :: rest => some (String.ofList rest)
    | [] => none
  match longOption name, value with
  | .valued k, some v => do (← p.settle).assign k v
  | .valued k, none => do
    let p ← p.settle
    return { p with pending := some (k, none) }
  | .help, none => p.ask .displayHelp
  | .version, none => p.ask .displayVersion
  | .unknown, _ => .error .unknownArgument
  | _, some _ => .error .tooManyValues

/-- Takes an argument that begins with one hyphen. Only its first letter is looked at. -/
def short (letter : Char) (p : Progress) : Except UsageError Progress :=
  if letter = 'h' then p.ask .displayHelp
  else if letter = 'V' then p.ask .displayVersion
  else .error .unknownArgument

/-- Takes an argument without a hyphen, which can only be the value of the option before it. -/
def plain (argument : String) (p : Progress) : Except UsageError Progress :=
  match p.pending with
  | some (k, none) => .ok { p with pending := some (k, some argument) }
  | _ => .error .unknownArgument

/-- Takes the arguments in their order. After a lone double hyphen nothing may follow. -/
def readAll : List String → Progress → Except UsageError Progress
  | [], p => p.settle
  | argument :: rest, p =>
    match argument.toList with
    | ['-', '-'] => if rest.isEmpty then p.settle else .error .unknownArgument
    | '-' :: '-' :: body => do readAll rest (← p.long body)
    | '-' :: letter :: _ => do readAll rest (← p.short letter)
    | _ => do readAll rest (← p.plain argument)

end Progress

/-- Reads the arguments of a command line. -/
def parse (arguments : List String) : Except UsageError CommandLine :=
  (Progress.readAll arguments {}).map (·.line)

/-- Lays what was asked for over a configuration. A lower bound on the times of tasks gives way to a
new upper bound. -/
def override (line : CommandLine) (c : RunnerConfig) : RunnerConfig :=
  { pipeline :=
      { c.pipeline with
        want := line.want.getD c.pipeline.want
        workerCount := line.workers.getD c.pipeline.workerCount
        taskTimeoutMs := line.timeoutMs.getD c.pipeline.taskTimeoutMs
        shutdownMode := line.shutdownMode.getD c.pipeline.shutdownMode }
    workload :=
      { taskCount := line.tasks.getD c.workload.taskCount
        maxTaskMs := line.maxTaskMs.getD c.workload.maxTaskMs
        minTaskMs := match line.maxTaskMs with
          | some upper => min c.workload.minTaskMs upper
          | none => c.workload.minTaskMs }
    metricsAddress := line.metricsAddress.or c.metricsAddress }

end CommandLine

end Fanout
