import Cellbook.Channel.Backends
import Cellbook.Engine.Engine

/-!
# Headless runs

Runs the code cells of a document in order, in one environment, up to the first that fails.  A run
comes to one report for every cell that was run.
-/

namespace Cellbook.Headless

variable {ε ν : Type}

/-- What became of a cell. -/
structure CellReport where
  /-- The number of the cell among those that are run, from one. -/
  index : Nat
  /-- What the cell sent. -/
  response : Bytes
  outcome : Except CellFault Unit

/-- Whether the cell ran to its end. -/
def CellReport.succeeded (report : CellReport) : Bool := report.outcome matches .ok _

/-- Runs cells in order up to the first that fails; the first of them has the number `index`. -/
def runFrom [Represent ν] (id : NotebookId) :
    Engine ε ν → Nat → List DocumentCell → Engine ε ν × List CellReport
  | engine, _, [] => (engine, [])
  | engine, index, cell :: rest =>
    let (engine, response, outcome) := engine.run bufferChannel id cell.text []
    let report : CellReport := ⟨index, response, outcome⟩
    match outcome with
    | .error _ => (engine, [report])
    | .ok () =>
      let (engine, reports) := runFrom id engine (index + 1) rest
      (engine, report :: reports)

/-- Runs the code cells of a document in a new environment. -/
def run [Represent ν] (evaluator : Evaluator ε ν) (id : NotebookId) (document : Document) :
    Engine ε ν × List CellReport :=
  runFrom id (.new evaluator) 1 document.codeCells

end Cellbook.Headless
