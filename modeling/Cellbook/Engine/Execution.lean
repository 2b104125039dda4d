import Cellbook.Cell.Parts
import Cellbook.Engine.Evaluator
import Cellbook.Rendering.Rendered

/-!
# Execution of cells

Runs the parts of a cell in an environment and sends what comes of it onto a channel.

* A printed text goes out as one JSON string and a newline, in one send (`frame`).  Once a send has
  failed, what is printed after it is dropped; the cell runs on.
* The body is run first.  The tail is evaluated as an expression, and its value is sent as it is
  shown; a tail that is no expression is run as statements.
* A fault ends the cell where it comes up and leaves the environment as it then is.
-/

namespace Cellbook

variable {ε ν σ : Type}

/-- A printed text as it is sent. -/
def frame (text : String) : String := Json.quote text ++ "\n"

/-- The channel as the printing of a cell sees it: its state, and whether a send has failed. -/
structure Printing (σ : Type) where
  state : σ
  broken : Bool

namespace Printing

/-- Sends a printed text, unless a send has failed. -/
def print (channel : Channel σ) (printing : Printing σ) (text : String) : Printing σ :=
  if printing.broken then printing
  else
    match channel.sendText printing.state (frame text) with
    | (state, .ok ()) => ⟨state, false⟩
    | (state, .error _) => ⟨state, true⟩

/-- Sends printed texts in order. -/
def printAll (channel : Channel σ) (printing : Printing σ) (texts : List String) : Printing σ :=
  texts.foldl (print channel) printing

end Printing

/-- How far a cell has come. -/
structure Progress (ε σ : Type) where
  environment : ε
  printing : Printing σ
  outcome : Except CellFault Unit

/-- What a cell leaves. -/
structure Executed (ε σ : Type) where
  environment : ε
  state : σ
  outcome : Except CellFault Unit

/-- The cell as it leaves off. -/
def Progress.finish (progress : Progress ε σ) : Executed ε σ :=
  ⟨progress.environment, progress.printing.state, progress.outcome⟩

namespace Evaluator

variable (evaluator : Evaluator ε ν) (channel : Channel σ)

/-- Runs a part of a cell as statements. -/
def runPart (source : String) (environment : ε) (printing : Printing σ) : Progress ε σ :=
  let called := evaluator.run environment source
  ⟨called.environment, printing.printAll channel called.printed, called.outcome⟩

/-- Runs the body of a cell, if there is one. -/
def runBody (body : Option String) (environment : ε) (state : σ) : Progress ε σ :=
  match body with
  | none => ⟨environment, ⟨state, false⟩, .ok ()⟩
  | some source => evaluator.runPart channel source environment ⟨state, false⟩

/-- Evaluates the tail of a cell and sends its value, or runs it as statements. -/
def runTail [Represent ν] (source : String) (environment : ε) (printing : Printing σ) :
    Executed ε σ :=
  let called := evaluator.evaluate? environment source
  let printing := printing.printAll channel called.printed
  match called.outcome with
  | .error fault => ⟨called.environment, printing.state, .error fault⟩
  | .ok none => (evaluator.runPart channel source called.environment printing).finish
  | .ok (some value) =>
    let (state, sent) := (encode value).writeTo channel printing.state
    ⟨called.environment, state, sent.mapError .channel⟩

/-- Runs the parts of a cell. -/
def execute [Represent ν] (parts : CellParts) (environment : ε) (state : σ) : Executed ε σ :=
  let progress := evaluator.runBody channel parts.body environment state
  match progress.outcome, parts.tail with
  | .ok (), some tail =>
    evaluator.runTail channel tail progress.environment progress.printing
  | _, _ => progress.finish

end Evaluator

end Cellbook
