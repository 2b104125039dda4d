import Cellbook.Engine.Execution
import Cellbook.Engine.Registry

/-!
# Engines

An engine runs cells of notebooks, each in the environment of its notebook.  A run first looks the
environment up, creating it if need be, and then executes the cell in it; `Engine.lookUp` and
`Engine.executeAt` are these two steps, between which other runs and stops may fall.
-/

namespace Cellbook

/-- A language and the environments of notebooks. -/
structure Engine (ε ν : Type) where
  evaluator : Evaluator ε ν
  registry : Registry ε

namespace Engine

variable {ε ν σ : Type}

/-- An engine that has run nothing. -/
def new (evaluator : Evaluator ε ν) : Engine ε ν := ⟨evaluator, .empty⟩

/-- Whether a notebook has an environment. -/
def isRunning (engine : Engine ε ν) (name : String) : Bool := engine.registry.contains name

/-- Discards the environment of a notebook; answers whether it had one. -/
def stop (engine : Engine ε ν) (name : String) : Engine ε ν × Bool :=
  let (registry, existed) := engine.registry.remove name
  ({ engine with registry := registry }, existed)

/-- The handle of a notebook's environment, which is new on first use. -/
def lookUp (engine : Engine ε ν) (id : NotebookId) : Engine ε ν × Handle :=
  let (registry, handle) := engine.registry.getOrCreate engine.evaluator.fresh id
  ({ engine with registry := registry }, handle)

/-- The environment that a handle holds. -/
def environment (engine : Engine ε ν) (handle : Handle) : ε :=
  (engine.registry.get? handle).getD engine.evaluator.fresh

/-- Executes a cell in the environment that a handle holds.  A blank cell leaves all as it is. -/
def executeAt [Represent ν] (engine : Engine ε ν) (channel : Channel σ) (handle : Handle)
    (source : String) (state : σ) : Engine ε ν × σ × Except CellFault Unit :=
  let parts := CellParts.ofSource source
  if parts.isEmpty then (engine, state, .ok ())
  else
    let executed := engine.evaluator.execute channel parts (engine.environment handle) state
    ({ engine with registry := engine.registry.set handle executed.environment }, executed.state,
      executed.outcome)

/-- Runs a cell of a notebook and sends what comes of it onto a channel. -/
def run [Represent ν] (engine : Engine ε ν) (channel : Channel σ) (id : NotebookId)
    (source : String) (state : σ) : Engine ε ν × σ × Except CellFault Unit :=
  let (engine, handle) := engine.lookUp id
  engine.executeAt channel handle source state

end Engine

end Cellbook
