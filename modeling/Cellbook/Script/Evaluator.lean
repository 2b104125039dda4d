import Cellbook.Engine.Evaluator
import Cellbook.Script.Environment

/-!
# The script language as a language of cells

`evaluator limit` runs scripts of at most `limit` operations, or of any number where it is zero.
What is stated of every source is stated of every text; the parts of the language that are left out
are told where its syntax and its functions are (`Script.Syntax`, `Script.Library`).
-/

namespace Cellbook.Script

/-- Runs a source text as statements; one that cannot be read changes nothing. -/
def runSource (limit : Nat) (environment : Environment) (source : String) :
    Called Environment Unit :=
  match environment.run limit source with
  | .error fault => ⟨environment, [], .error (.parse fault.message)⟩
  | .ok ran =>
    ⟨ran.environment, ran.printed,
      (ran.outcome.map fun _ => ()).mapError fun fault => .execution fault.message⟩

/-- Evaluates a source text as one expression; one that is none changes nothing. -/
def evaluateSource (limit : Nat) (environment : Environment) (source : String) :
    Called Environment (Option Value) :=
  match environment.evaluate? limit source with
  | none => ⟨environment, [], .ok none⟩
  | some ran =>
    ⟨ran.environment, ran.printed,
      (ran.outcome.map some).mapError fun fault => .execution fault.message⟩

/-- The script language. -/
def evaluator (limit : Nat) : Evaluator Environment Value :=
  ⟨.empty, runSource limit, evaluateSource limit⟩

end Cellbook.Script
