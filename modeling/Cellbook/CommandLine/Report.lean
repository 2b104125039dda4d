import Cellbook.CommandLine.Reading
import Cellbook.Disk.Basic
import Cellbook.Headless.Transcript
import Cellbook.Server.Address
import Cellbook.Server.Fault

/-!
# Reports

What a command comes to: the texts that it writes, and how it exits.
-/

namespace Cellbook.CommandLine

open Terminal (paint rule)

/-- What a command writes, and the code that it exits with. -/
structure Report where
  output : String
  errors : String
  exit : Nat
  deriving Repr, DecidableEq

namespace Report

/-- A command that did what was asked. -/
def success (output : String) : Report := ⟨output, "", 0⟩

/-- A command that failed after it had written an output. -/
def failure (output message : String) : Report := ⟨output, "Error: " ++ message ++ "\n", 1⟩

/-- A command line that cannot be followed. -/
def misuse (fault : UsageFault) : Report := ⟨"", fault.message, 2⟩

end Report

/-- A message with what brought it about. -/
def withCause (message cause : String) : String := message ++ "\n\nCaused by:\n    " ++ cause

/-- Why a notebook cannot be run. -/
inductive NotebookFault where
  /-- The path ends in no name. -/
  | noName (path : String)
  | invalidName (name : String)
  | unreadable (path : String) (fault : IoFault)
  | malformed (path : String) (fault : Json.Fault)
  deriving Repr, DecidableEq

/-- The message of a fault. -/
def NotebookFault.message : NotebookFault → String
  | .noName path => "Not a notebook file: " ++ path
  | .invalidName name => NotebookId.invalidMessage name
  | .unreadable path fault => withCause ("Notebook not found: " ++ path) fault.message
  | .malformed path fault => withCause ("Malformed notebook: " ++ path) fault.message

/-- The name of the notebook at a path. -/
def notebookAt (path : String) : Except NotebookFault NotebookId :=
  match Disk.fileName? path with
  | none => .error (.noName path)
  | some name =>
    match NotebookId.ofName? name with
    | none => .error (.invalidName name)
    | some id => .ok id

/-- The document at a path, from what reading the path comes to. -/
def documentFrom (path : String) (content : Except IoFault Bytes) :
    Except NotebookFault Document := do
  let content ← content.mapError (.unreadable path)
  (Document.decode content).mapError (.malformed path)

/-- The report of a headless run.  `seconds` is how long the run took. -/
def reportRun (id : NotebookId) (reports : List Headless.CellReport) (seconds : String) : Report :=
  let shown := Headless.header id ++ String.join (reports.map Headless.CellReport.show)
  match reports.find? fun report => !report.succeeded with
  | some report => .failure shown (Headless.failedWords report.index)
  | none => .success (shown ++ Headless.footer reports.length seconds)

/-- The notebook at a path: its name, and its document once the name will do. -/
def loadNotebook (path : String) (content : Except IoFault Bytes) :
    Except NotebookFault (NotebookId × Document) := do
  let id ← notebookAt path
  return (id, ← documentFrom path content)

/-- Runs the notebook at a path. -/
def runNotebook {ε ν : Type} [Represent ν] (evaluator : Evaluator ε ν) (path : String)
    (content : Except IoFault Bytes) (seconds : String) : Report :=
  match loadNotebook path content with
  | .error fault => .failure "" fault.message
  | .ok (id, document) => reportRun id (Headless.run evaluator id document).2 seconds

namespace ServeSettings

/-- The address to listen at. -/
def address (settings : ServeSettings) : String :=
  settings.host ++ ":" ++ toString settings.port

/-- A line of the banner. -/
def bannerLine (name value : String) : String :=
  paint .cyan ("  ◆ " ++ name ++ ":") ++ " " ++ value ++ "\n"

/-- What is written before the server listens. -/
def banner (settings : ServeSettings) : String :=
  "\n" ++ paint .bold "µNotebook" ++ " " ++ version ++ "\n" ++ rule ++
    bannerLine "Notebooks" settings.dir ++
    bannerLine "Server" ("http://" ++ settings.address) ++
    (if settings.maxOperations == 0 then ""
      else bannerLine "Operation limit" (toString settings.maxOperations)) ++
    rule ++ paint .green "Press Ctrl+C to stop" ++ "\n\n"

/-- The message for a directory that is none. -/
def directoryMessage (settings : ServeSettings) : String :=
  "Notebook directory not found: " ++ settings.dir

/-- The fault of an address at which no server can listen. -/
def addressFault (settings : ServeSettings) : Server.ServerFault :=
  .io "" ("Invalid address: " ++ settings.address)

/-- The report of a server that meets a fault before or while it listens. -/
def reportFault (settings : ServeSettings) (fault : Server.ServerFault) : Report :=
  .failure settings.banner fault.message

/-- The report of a server that does not come to listen, if there is reason for that.
`isDirectory` says whether there is a directory to serve. -/
def refusal? (settings : ServeSettings) (isDirectory : Bool) : Option Report :=
  if !isDirectory then some (.failure "" settings.directoryMessage)
  else if Server.isHostAddress settings.host then none
  else some (settings.reportFault settings.addressFault)

/-- The report of a server that listened until it was stopped. -/
def reportStopped (settings : ServeSettings) : Report := .success settings.banner

end ServeSettings

/-- What a command finds around it. -/
structure Surroundings where
  /-- The content of the file at a path. -/
  read : String → Except IoFault Bytes
  /-- Whether a path leads to a directory. -/
  isDirectory : String → Bool
  /-- How many seconds the command took. -/
  seconds : String
  /-- Whether the server could listen and was then stopped, or the fault that it met. -/
  listening : Except IoFault Unit

/-- The surroundings of a command in a directory of a disk. -/
def Surroundings.ofDisk (disk : Disk) (directory seconds : String)
    (listening : Except IoFault Unit) : Surroundings where
  read path := disk.read (Disk.join directory path)
  isDirectory path := disk.isDirectory (Disk.join directory path)
  seconds
  listening

/-- What a request comes to. -/
def Request.report {ε ν : Type} [Represent ν] (evaluator : Evaluator ε ν)
    (surroundings : Surroundings) : Request → Report
  | .help level => .success level.helpText
  | .version => .success versionText
  | .run path => runNotebook evaluator path (surroundings.read path) surroundings.seconds
  | .serve settings =>
    match settings.refusal? (surroundings.isDirectory settings.dir), surroundings.listening with
    | some report, _ => report
    | none, .ok () => settings.reportStopped
    | none, .error fault => settings.reportFault (.ofIo "" fault)

/-- What a command line comes to. -/
def reportWords {ε ν : Type} [Represent ν] (evaluator : Evaluator ε ν)
    (surroundings : Surroundings) (words : List String) : Report :=
  match Request.ofWords words with
  | .error fault => .misuse fault
  | .ok request => request.report evaluator surroundings

end Cellbook.CommandLine
