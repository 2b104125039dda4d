import Cellbook.Engine.Engine
import Mathlib.Data.List.Infix

/-!
# Line ends

A line may end in a newline alone or in a newline after a carriage return.  Unifying line ends
takes away the carriage returns that were put before newlines and no others
(`unifyLineEnds_withReturns`), and it is the first that is done to a source text.  So it makes no
difference to a cell which of its lines end in which way (`ofSource_withReturns`).
-/

namespace Cellbook.Cell

open CellParts (unifyLineEnds)

/-! ## Unifying -/

/-- A carriage return goes where a newline comes next; any other character stays. -/
theorem unifyLineEnds_cons (c : Char) (rest : List Char) :
    unifyLineEnds (c :: rest) =
      if c = '\r' ∧ rest.head? = some '\n' then unifyLineEnds rest else c :: unifyLineEnds rest := by
  split
  · next h =>
      obtain ⟨rfl, hhead⟩ := h
      obtain ⟨more, rfl⟩ := List.head?_eq_some_iff.mp hhead
      rfl
  · next h =>
      rw [unifyLineEnds]
      rintro more rfl rfl
      exact h ⟨rfl, rfl⟩

theorem unifyLineEnds_cons_cases (c : Char) (rest : List Char) :
    unifyLineEnds (c :: rest) = c :: unifyLineEnds rest ∨
      c = '\r' ∧ (∃ more, rest = '\n' :: more) ∧ unifyLineEnds (c :: rest) = unifyLineEnds rest := by
  rw [unifyLineEnds_cons]
  split
  · next h => exact .inr ⟨h.1, List.head?_eq_some_iff.mp h.2, rfl⟩
  · exact .inl rfl

theorem unifyLineEnds_cons_of_ne {c : Char} (hc : c ≠ '\r') (rest : List Char) :
    unifyLineEnds (c :: rest) = c :: unifyLineEnds rest := by
  rw [unifyLineEnds_cons, if_neg fun h => hc h.1]

/-- Line ends are unified line by line. -/
theorem unifyLineEnds_append (front last : List Char) :
    unifyLineEnds (front ++ '\n' :: last) =
      unifyLineEnds (front ++ ['\n']) ++ unifyLineEnds last := by
  induction front with
  | nil => rfl
  | cons c front ih =>
      have hhead : (front ++ '\n' :: last).head? = (front ++ ['\n']).head? := by
        cases front <;> rfl
      rw [List.cons_append, List.cons_append, unifyLineEnds_cons, unifyLineEnds_cons, hhead, ih]
      split
      · rfl
      · rfl

/-- A newline at the end stays. -/
theorem exists_unifyLineEnds_newline (text : List Char) :
    ∃ lines, unifyLineEnds (text ++ ['\n']) = lines ++ ['\n'] := by
  induction text with
  | nil => exact ⟨[], rfl⟩
  | cons c text ih =>
      obtain ⟨lines, heq⟩ := ih
      rw [List.cons_append, unifyLineEnds_cons, heq]
      split
      · exact ⟨lines, rfl⟩
      · exact ⟨c :: lines, rfl⟩

/-! ## Carriage returns before newlines -/

/-- A text of which no newline comes after a carriage return. -/
def Unified (text : List Char) : Prop := ¬ ['\r', '\n'] <:+: text

instance (text : List Char) : Decidable (Unified text) := inferInstanceAs (Decidable (¬ _))

theorem unified_cons_iff {c : Char} {rest : List Char} :
    Unified (c :: rest) ↔ ¬ (c = '\r' ∧ rest.head? = some '\n') ∧ Unified rest := by
  have hhead : ['\n'] <+: rest ↔ rest.head? = some '\n' := by
    rw [List.head?_eq_some_iff]
    exact ⟨fun ⟨more, h⟩ => ⟨more, h.symm⟩, fun ⟨more, h⟩ => ⟨more, h.symm⟩⟩
  rw [Unified, List.infix_cons_iff, List.cons_prefix_cons, hhead, not_or, eq_comm (a := '\r')]
  rfl

theorem Unified.front {text front : List Char} (h : Unified text) (hfront : front <+: text) :
    Unified front := fun hpair => h (hpair.trans hfront.isInfix)

theorem unified_of_notMem {text : List Char} (h : '\n' ∉ text) : Unified text :=
  fun hpair => h (hpair.subset (by simp))

/-- A text with a carriage return put before some of its newlines: before the one after `n` others
if `n` is chosen. -/
def withReturns (chosen : Nat → Bool) : List Char → List Char
  | [] => []
  | c :: rest =>
    if c = '\n' then
      (if chosen 0 then ['\r', '\n'] else ['\n']) ++ withReturns (fun n => chosen (n + 1)) rest
    else c :: withReturns chosen rest

/-- A newline comes first only where one did. -/
theorem head?_withReturns {chosen : Nat → Bool} {text : List Char}
    (h : (withReturns chosen text).head? = some '\n') : text.head? = some '\n' := by
  cases text with
  | nil => exact h
  | cons c rest =>
      by_cases hc : c = '\n'
      · exact congrArg some hc
      · rw [withReturns, if_neg hc] at h
        exact absurd (Option.some.inj h) hc

/-- Unifying line ends takes away what was put before newlines, and leaves every other carriage
return. -/
theorem unifyLineEnds_withReturns {text : List Char} (h : Unified text) (chosen : Nat → Bool) :
    unifyLineEnds (withReturns chosen text) = text := by
  induction text generalizing chosen with
  | nil => rfl
  | cons c rest ih =>
      obtain ⟨hpair, hrest⟩ := unified_cons_iff.mp h
      by_cases hc : c = '\n'
      · subst hc
        have htail := ih hrest fun n => chosen (n + 1)
        rw [withReturns, if_pos rfl]
        cases chosen 0 with
        | true => exact congrArg ('\n' :: ·) htail
        | false => exact (unifyLineEnds_cons_of_ne (by decide) _).trans (congrArg ('\n' :: ·) htail)
      · rw [withReturns, if_neg hc, unifyLineEnds_cons, ih hrest]
        exact if_neg fun hreturn => hpair ⟨hreturn.1, head?_withReturns hreturn.2⟩

theorem withReturns_none (text : List Char) : withReturns (fun _ => false) text = text := by
  induction text with
  | nil => rfl
  | cons c rest ih =>
      rw [withReturns, ih]
      split
      · next hc => rw [hc]; rfl
      · rfl

/-- Where no newline comes after a carriage return there is nothing to unify. -/
theorem Unified.unifyLineEnds_eq {text : List Char} (h : Unified text) :
    unifyLineEnds text = text := by
  have heq := unifyLineEnds_withReturns h fun _ => false
  rwa [withReturns_none] at heq

/-- A newline comes first in a unified text where a line end did. -/
theorem newline_or_pair_of_unifyLineEnds {text : List Char}
    (h : (unifyLineEnds text).head? = some '\n') :
    text.head? = some '\n' ∨ ['\r', '\n'] <+: text := by
  cases text with
  | nil => exact .inl h
  | cons c rest =>
      rcases unifyLineEnds_cons_cases c rest with heq | ⟨rfl, ⟨more, rfl⟩, -⟩
      · rw [heq] at h
        exact .inl h
      · exact .inr ⟨more, rfl⟩

/-- Unifying once leaves nothing to unify, unless two carriage returns came before a newline. -/
theorem unified_unifyLineEnds {text : List Char} (h : ¬ ['\r', '\r', '\n'] <:+: text) :
    Unified (unifyLineEnds text) := by
  induction text with
  | nil => exact unified_of_notMem List.not_mem_nil
  | cons c rest ih =>
      rw [List.infix_cons_iff, not_or, List.cons_prefix_cons] at h
      have hrest := ih h.2
      rw [unifyLineEnds_cons]
      split
      · exact hrest
      · next hkept =>
          refine unified_cons_iff.mpr ⟨?_, hrest⟩
          rintro ⟨rfl, hhead⟩
          rcases newline_or_pair_of_unifyLineEnds hhead with hnewline | hpair
          · exact hkept ⟨rfl, hnewline⟩
          · exact h.1 ⟨rfl, hpair⟩

/-- Whichever newlines of a source text are written with a carriage return, the parts of the cell
are the same, and every engine comes to the same with it: whatever its evaluator is given, and
whatever the channel takes. -/
theorem ofSource_withReturns {source : String} (h : Unified source.toList) (chosen : Nat → Bool) :
    let varied := String.ofList (withReturns chosen source.toList)
    CellParts.ofSource varied = CellParts.ofSource source ∧
      ∀ {ε ν σ : Type} [Represent ν] (engine : Engine ε ν) (channel : Channel σ) (id : NotebookId)
        (state : σ), engine.run channel id varied state = engine.run channel id source state := by
  intro varied
  have hparts : CellParts.ofSource varied = CellParts.ofSource source := by
    rw [CellParts.ofSource, CellParts.ofSource, CellParts.tidy, CellParts.tidy, String.toList_ofList,
      unifyLineEnds_withReturns h, h.unifyLineEnds_eq]
  refine ⟨hparts, fun engine channel id state => ?_⟩
  rw [Engine.run, Engine.run]
  simp only [Engine.executeAt, hparts]

/-- Of the newlines in a literal, of a blank line and at the end, some are written with a carriage
return; the two that stand elsewhere are no part of a line end. -/
theorem ofSource_withReturns_literal :
    let source := "let s = `a\n\rb`;\n\n// \r c\ns\n \n"
    let varied := "let s = `a\r\n\rb`;\n\r\n// \r c\ns\r\n \n"
    let parts : CellParts := ⟨some "let s = `a\n\rb`;\n\n// \r c", some "s"⟩
    Unified source.toList ∧
      varied = String.ofList (withReturns (fun n => n % 2 == 0) source.toList) ∧
      CellParts.ofSource source = parts ∧ CellParts.ofSource varied = parts := by
  intro source varied parts
  have hunified : Unified source.toList := by decide
  have hvaried : varied = String.ofList (withReturns (fun n => n % 2 == 0) source.toList) := by
    decide
  have hparts : CellParts.ofSource source = parts := by decide
  obtain ⟨hsame, -⟩ := ofSource_withReturns hunified fun n => n % 2 == 0
  exact ⟨hunified, hvaried, hparts, hvaried ▸ hsame.trans hparts⟩

end Cellbook.Cell
