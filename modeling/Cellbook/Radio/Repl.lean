import Cellbook.Engine.Evaluator
import Cellbook.Output.Routing
import Cellbook.Radio.Channel
import Cellbook.Radio.Command
import Cellbook.Version

/-!
# REPL over the radio

A central gathers input by any number of writes and has it run as one script, in one environment
that lasts as long as the REPL.  From START to STOP, or until the central is gone, what is printed
on the stream goes to the central; before and after it goes where it went before.

A failing script is told to the central and is no fault; only the radio has faults.
-/

namespace Cellbook.Radio

open Output (Routing StreamId ThreadId)

/-- Where printed text goes: to the central, or to one of the destinations `δ`. -/
inductive Destination (δ : Type) where
  | central
  | elsewhere (destination : δ)
  deriving Repr, DecidableEq

/-- Whether printed text is routed to the central. -/
inductive ReplState where
  | idle | active
  deriving Repr, DecidableEq

/-- What the central is told at START. -/
def startBanner : String := "µNotebook " ++ version ++ "\r\n"

/-- What the central is told at STOP. -/
def stopBanner : String := "\r\nrepl stopped\r\n"

/-- What the central is told after every RUN. -/
def prompt : String := ">>> "

/-- What the central is told of a command that there is not. -/
def unknownMarker : String := "?"

/-- What the central is told of a script that failed. -/
def failureReport (fault : CellFault) : String := "Error: " ++ fault.message ++ "\r\n"

/-- A REPL, with the state of its server and the routing of printed text. -/
structure Repl (ε γ δ : Type) where
  radio : γ
  routing : Routing (Destination δ)
  environment : ε
  /-- The input gathered and not yet run. -/
  input : Bytes := []
  state : ReplState := .idle
  /-- The process-wide destination to put back at STOP. -/
  saved : Option (Destination δ) := none
  deviceName : String := defaultDeviceName
  /-- What went to destinations other than the central, in order. -/
  written : List (δ × String) := []

/-- What an operation of the REPL comes to. -/
abbrev Radioed (ε γ δ : Type) := Repl ε γ δ × Except RadioFault Unit

namespace Repl

variable {ε ν γ δ : Type}

/-- The stream that scripts print on. -/
def stream : StreamId := 0

/-- The thread that handles what the central writes. -/
def thread : ThreadId := 0

/-- A REPL in which nothing has run. -/
def new (evaluator : Evaluator ε ν) (radio : γ) (routing : Routing (Destination δ))
    (deviceName : String) : Repl ε γ δ :=
  { radio, routing, environment := evaluator.fresh, deviceName }

/-- Hands a text to a destination. -/
def deliver (server : GattServer γ) (repl : Repl ε γ δ) :
    Destination δ × String → Repl ε γ δ
  | (.central, text) => { repl with radio := server.print repl.radio text }
  | (.elsewhere destination, text) =>
    { repl with written := repl.written ++ [(destination, text)] }

/-- Writes a text on the stream. -/
def print (server : GattServer γ) (repl : Repl ε γ δ) (text : String) : Repl ε γ δ :=
  (repl.routing.write thread stream text).foldl (deliver server) repl

/-- Tells the central a text. -/
def tell (server : GattServer γ) (repl : Repl ε γ δ) (text : String) : Radioed ε γ δ :=
  let (radio, outcome) := server.sendText repl.radio text
  ({ repl with radio := radio }, outcome)

/-- Puts back the process-wide destination, if it was replaced. -/
def restoreOutput (repl : Repl ε γ δ) : Repl ε γ δ :=
  let routing :=
    match repl.saved with
    | some destination => (repl.routing.replace stream destination).1
    | none => repl.routing
  { repl with routing := routing, saved := none, state := .idle }

/-- Routes printed text to the central, unless it is already. -/
def captureOutput (repl : Repl ε γ δ) : Repl ε γ δ :=
  match repl.state with
  | .active => repl
  | .idle =>
    let (routing, previous) := repl.routing.replace stream .central
    { repl with routing := routing, saved := some previous, state := .active }

/-- START: routes printed text to the central and drops the input. -/
def start (server : GattServer γ) (repl : Repl ε γ δ) : Radioed ε γ δ :=
  tell server { repl.captureOutput with input := [] } startBanner

/-- STOP: routes printed text back; the input stays. -/
def stop (server : GattServer γ) (repl : Repl ε γ δ) : Radioed ε γ δ :=
  repl.restoreOutput.tell server stopBanner

/-- RUN: runs the input as a script and tells the central of a failure. -/
def run (server : GattServer γ) (evaluator : Evaluator ε ν) (repl : Repl ε γ δ) :
    Radioed ε γ δ :=
  let called := evaluator.run repl.environment (Text.decodeLossy repl.input)
  let repl := called.printed.foldl (print server) { repl with input := [] }
  let repl := { repl with environment := called.environment }
  match called.outcome with
  | .ok _ => repl.tell server prompt
  | .error fault =>
    match repl.tell server (failureReport fault) with
    | (repl, .ok _) => repl.tell server prompt
    | failed => failed

/-- Handles a write of the central: a command and what follows it. -/
def handleWrite (server : GattServer γ) (evaluator : Evaluator ε ν) (repl : Repl ε γ δ)
    (octets : Bytes) : Radioed ε γ δ :=
  match octets.head?.bind Command.ofOctet? with
  | some .start => repl.start server
  | some .writeInput => ({ repl with input := repl.input ++ octets.drop 1 }, .ok ())
  | some .run => repl.run server evaluator
  | some .stop => repl.stop server
  | none => repl.tell server unknownMarker

/-- Begins to advertise. -/
def startAdvertising (server : GattServer γ) (repl : Repl ε γ δ) : Radioed ε γ δ :=
  let (radio, outcome) := server.startAdvertising repl.radio repl.deviceName
  ({ repl with radio := radio }, outcome)

/-- A central has connected: all stays as it is. -/
def onConnect (repl : Repl ε γ δ) : Repl ε γ δ := repl

/-- The central is gone: routes printed text back, drops the input and advertises again. -/
def onDisconnect (server : GattServer γ) (repl : Repl ε γ δ) : Radioed ε γ δ :=
  startAdvertising server { repl.restoreOutput with input := [] }

end Repl

end Cellbook.Radio
