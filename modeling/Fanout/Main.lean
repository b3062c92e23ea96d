import Fanout.Runner

/-! The program: reads its arguments, the variables around it and the files of its configuration,
carries the run out and prints its report. -/

open Fanout

namespace Fanout.Main

/-- The variables of the process, from the file in which they are listed one after the other. -/
def readVariables : IO (List Variable) := do
  let bytes ← try IO.FS.readBinFile "/proc/self/environ" catch _ => pure ByteArray.empty
  let entries := bytes.toList.splitOn 0
  return entries.filterMap fun entry =>
    match entry.span (· != '='.toNat.toUInt8) with
    | (name, _ :: value) => (Text.ofUtf8? name).map fun name => { name, value }
    | _ => none

/-- What the file system says about a directory and the files in it that matter. -/
def readFiles (directory : String) : IO FileView := do
  let isDirectory ← (← IO.FS.realPath directory).isDir
  let candidates : List String :=
    [ConfigFile.base, .environment .dev, .environment .prod].flatMap (·.paths directory)
  let found ← candidates.filterMapM fun (path : String) => do
    let isFile ← try pure ((← (← IO.FS.realPath path).metadata).type == .file) catch _ => pure false
    if !isFile then return none
    try return some (path, some (← IO.FS.readBinFile path).toList)
    catch _ => return some (path, none)
  return {
    isDirectory := fun path => path == directory && isDirectory
    file? := fun path => (found.find? (·.1 == path)).map (·.2) }

/-- Random words. -/
def randomWords (count : Nat) : IO (List Nat) := do
  let bytes ← IO.getRandomBytes (8 * count).toUSize
  let rec words : Nat → List UInt8 → List Nat
    | 0, _ => []
    | n + 1, bytes => (bytes.take 8).foldl (fun w b => 256 * w + b.toNat) 0 :: words n (bytes.drop 8)
  return words count bytes.toList

/-- Draws the times of the tasks; where the words run out, more are taken. -/
partial def drawDurations (config : WorkloadConfig) (spare : Nat) : IO (List Nat) := do
  match config.draw (← randomWords (2 * config.taskCount + spare)) with
  | .ok (durations, _) => return durations
  | .error .emptyRange => throw (IO.userError DrawFault.emptyRange.message)
  | .error .wordsExhausted => drawDurations config (2 * spare)

/-- The origin of the failures of this program, which records none. -/
def unrecorded : Origin :=
  { place := "?", backtrace := "disabled backtrace" }

/-- Runs a configuration and prints the report after the time that the run takes. -/
def report (config : RunnerConfig) : IO UInt32 := do
  match Runner.run config (← drawDurations config.workload 64) with
  | .error (.refused d) =>
    IO.eprintln ("Error: " ++ (d.failure unrecorded).display)
    return 1
  | .error (.panicked fault) => throw (IO.userError fault.message)
  | .ok last =>
    IO.sleep last.now.toUInt32
    match last.runReport? with
    | none => return 1
    | some r =>
      let slept (p : Packet Job) : String := Runner.padded (Runner.plannedMs p) ++ "ms"
      for line in Runner.reportLines r slept (toString last.now) do
        IO.println line
      return 0

def usage : String :=
  "Usage: fanout [--config-dir DIR] [--tasks N] [--want N] [--workers N] [--timeout-ms MS] "
    ++ "[--max-task-ms MS] [--shutdown-mode graceful-drain|abandon] [--metrics-addr ADDRESS]"

end Fanout.Main

def main (arguments : List String) : IO UInt32 := do
  match CommandLine.parse arguments with
  | .error .displayHelp =>
    IO.println Main.usage
    return 0
  | .error .displayVersion =>
    IO.println "fanout 0.1.0"
    return 0
  | .error e =>
    IO.eprintln ("error: " ++ e.label ++ "\n\n" ++ Main.usage)
    return 2
  | .ok line =>
    match Runner.loadConfig line (← Main.readFiles line.configDir) (← Main.readVariables) with
    | .error e =>
      IO.eprintln ("Error: " ++ e.message)
      return 1
    | .ok config => Main.report config
