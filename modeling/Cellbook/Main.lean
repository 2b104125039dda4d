import Cellbook.Host.Listener

/-!
# The program

Reads the command line, does what it asks for, and writes the report.
-/

open Cellbook Cellbook.CommandLine

/-- A number of milliseconds in seconds, with two places. -/
def secondsText (milliseconds : Nat) : String :=
  let hundredths := milliseconds / 10
  let places := toString (hundredths % 100)
  toString (hundredths / 100) ++ "." ++ (if places.length < 2 then "0" ++ places else places)

/-- Writes a report and answers with the code to exit with. -/
def writeReport (report : Report) : IO UInt32 := do
  IO.print report.output
  IO.eprint report.errors
  return report.exit.toUInt32

/-- Runs the notebook at a path and writes how that went. -/
def performRun (path : String) : IO UInt32 := do
  let start ← IO.monoMsNow
  match loadNotebook path (← Host.readFile path) with
  | .error fault => writeReport (.failure "" fault.message)
  | .ok (id, document) =>
    let reports ← IO.lazyPure fun _ => (Headless.run (Script.evaluator 0) id document).2
    let seconds := secondsText ((← IO.monoMsNow) - start)
    writeReport (reportRun id reports seconds)

/-- Serves a directory until the program is interrupted. -/
def performServe (settings : ServeSettings) : IO UInt32 := do
  match settings.refusal? (← Host.isDirectory settings.dir) with
  | some report => writeReport report
  | none =>
    IO.print settings.banner
    (← IO.getStdout).flush
    let report :=
      match ← Host.listen settings with
      | .ok () => settings.reportStopped
      | .error fault => settings.reportFault (.ofIo "" fault)
    writeReport { report with output := "" }

/-- The program. -/
def main (words : List String) : IO UInt32 :=
  match Request.ofWords words with
  | .error fault => writeReport (.misuse fault)
  | .ok (.help level) => writeReport (.success level.helpText)
  | .ok .version => writeReport (.success versionText)
  | .ok (.run path) => performRun path
  | .ok (.serve settings) => performServe settings
