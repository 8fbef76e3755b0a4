import Faceted.CommandLine
import Std.Time.DateTime.Timestamp

/-!
# The program

Reads the files that the command line names, the environment and the clock, and writes what the run
leaves.
-/

open Faceted

/-- The file at a path, if it can be read. -/
def readFile (path : String) : IO (Option TextFile) := do
  try
    let text ← IO.FS.readFile path
    let location ← IO.FS.realPath path
    return some ⟨text, location.toString⟩
  catch _ => return none

/-- The files at the paths. -/
def readFiles (paths : List String) : IO Files := do
  let read ← paths.mapM fun path => do return (path, ← readFile path)
  return fun path => (read.lookup path).bind id

/-- The variables that settings can be taken from. -/
def readEnvironment : IO (List (String × String)) := do
  let names := Settings.fieldNames.flatMap fun name =>
    ["exhibit_" ++ name, ("exhibit_" ++ name).toUpper]
  let read ← names.mapM fun name => do return (← IO.getEnv name).map fun text => (name, text)
  return read.filterMap id

/-- The present moment in milliseconds. -/
def readClock : IO Int := do
  let now ← Std.Time.Timestamp.now
  return now.toMillisecondsSinceUnixEpoch.toInt

def main (arguments : List String) : IO UInt32 := do
  let files ← readFiles (CommandLine.pathsOf arguments)
  let report := CommandLine.run files (← readEnvironment) (← readClock) arguments
  for line in report.lines do
    IO.println line
  if let some fault := report.fault then
    IO.eprintln fault
  return report.code.toUInt32
