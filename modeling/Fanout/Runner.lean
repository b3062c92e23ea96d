import Fanout.CommandLine
import Fanout.Config.Forms
import Fanout.Settings.Load
import Fanout.Workload
import Fanout.Pipeline.Launch

/-! The runner: loads its configuration, runs a synthetic workload through the pipeline and reports
what was collected, in the order of arrival. -/

namespace Fanout

/-- Why the runner does not start. -/
inductive RunnerError
  | environment (message : String)
  | load (directory : String) (e : LoadError)
  | defect (d : ConfigDefect)
  deriving DecidableEq, Repr

namespace RunnerError

/-- The name under which an error is reported. -/
def label : RunnerError → String
  | .environment _ => "runner"
  | .load _ e => e.label
  | .defect d => d.label

/-- What went wrong, from the outermost cause to the innermost. -/
def message : RunnerError → String
  | .environment message => "failed to read the application environment: " ++ message
  | .load directory e =>
    "failed to load configuration from " ++ Text.quotedBytes directory.toUTF8.toList ++ ": "
      ++ e.message
  | .defect d => "invalid runner configuration: " ++ d.message

end RunnerError

namespace Runner

/-- Loads the configuration that a command line asks for, in a given environment. -/
def loadIn (environment : Environment) (line : CommandLine) (files : FileView)
    (vars : List Variable) : Except RunnerError RunnerConfig :=
  match Fanout.loadConfig RunnerConfig.form.reading files vars line.configDir environment with
  | .error e => .error (.load line.configDir e)
  | .ok config =>
    let config := line.override config
    match config.defect? with
    | some d => .error (.defect d)
    | none => .ok config

/-- Loads the configuration that a command line asks for. -/
def loadConfig (line : CommandLine) (files : FileView) (vars : List Variable) :
    Except RunnerError RunnerConfig :=
  match Environment.ofVariable (Variable.text? Environment.variableName vars) with
  | .error message => .error (.environment message)
  | .ok environment => loadIn environment line files vars

/-- A number padded with blanks on the left to four characters. -/
def padded (n : Nat) : String :=
  let digits := toString n
  String.ofList (List.replicate (4 - digits.length) ' ') ++ digits

/-- A line about one packet: how long its work was to sleep, and how long it did. -/
def packetLine (p : Packet Job) (plannedMs : Nat) (slept : String) : String :=
  p.display ++ "  planned " ++ padded plannedMs ++ "ms  slept " ++ slept

/-- The last line of a report. -/
def summaryLine (r : RunReport) (elapsed : String) : String :=
  "collected " ++ toString r.packets.length ++ " of " ++ toString r.counters.dispatched
    ++ " dispatched, " ++ toString r.counters.abandoned ++ " timed out, in " ++ elapsed ++ "ms ("
    ++ r.exit.label ++ ")"

/-- How long the work of a packet sleeps. -/
def plannedMs (p : Packet Job) : Nat :=
  match p.item.work.gate with
  | .delay ms => ms
  | _ => 0

/-- The lines of a report; `slept` tells how long the work of a packet slept. -/
def reportLines (r : RunReport) (slept : Packet Job → String) (elapsed : String) : List String :=
  (r.packets.map fun p => packetLine p (plannedMs p) (slept p)) ++ [summaryLine r elapsed]

/-- Runs tasks that sleep for these times. The final state tells how long the run took. -/
def run (config : RunnerConfig) (durations : List Nat) : Except LaunchFault Pipeline :=
  config.pipeline.run (durations.map .sleeping)

end Runner

end Fanout
