import Cellbook.Engine.Fault

/-!
# Evaluators

The language of cells, as far as the engine knows it.  A call takes an environment and a source text
and leaves an environment, the texts printed, in order, and a value or a fault.
-/

namespace Cellbook

/-- What a call of an evaluator leaves. -/
structure Called (ε α : Type) where
  environment : ε
  printed : List String
  outcome : Except CellFault α

/-- A language with environments `ε` and values `ν`. -/
structure Evaluator (ε ν : Type) where
  /-- The environment in which nothing has run. -/
  fresh : ε
  /-- Runs a source text as statements. -/
  run : ε → String → Called ε Unit
  /-- Evaluates a source text as one expression; no value where it is none. -/
  evaluate? : ε → String → Called ε (Option ν)

end Cellbook
