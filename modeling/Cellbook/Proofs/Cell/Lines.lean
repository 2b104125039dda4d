import Cellbook.Cell.Parts
import Mathlib.Data.List.DropRight
import Mathlib.Data.List.TakeWhile

/-!
# Lines of a cell

The end of a text without white space, and its last line.  A text is one line, or it is what stands
above its last newline, that newline, and the last line (`line_or_below`).
-/

namespace Cellbook.Cell

open CellParts (trimEnd lastLine beforeLastLine)

/-! ## White space at the end -/

/-- A text of white space only. -/
def Blank (text : List Char) : Prop := ∀ c ∈ text, Text.isWhiteSpace c = true

instance (text : List Char) : Decidable (Blank text) := inferInstanceAs (Decidable (∀ c ∈ text, _))

/-- A text that does not end with white space. -/
def Trimmed (text : List Char) : Prop := ∀ c ∈ text.getLast?, Text.isWhiteSpace c = false

theorem trimEnd_eq_self_iff {text : List Char} : trimEnd text = text ↔ Trimmed text := by
  refine List.rdropWhile_eq_self_iff.trans ?_
  constructor
  · intro h c hc
    obtain ⟨hne, rfl⟩ := List.mem_getLast?_eq_getLast hc
    exact Bool.eq_false_iff.mpr (h hne)
  · intro h hne
    exact Bool.eq_false_iff.mp (h _ (List.getLast_mem_getLast? hne))

theorem trimmed_trimEnd (text : List Char) : Trimmed (trimEnd text) :=
  trimEnd_eq_self_iff.mp (List.rdropWhile_idempotent ..)

theorem isPrefix_trimEnd (text : List Char) : trimEnd text <+: text := List.rdropWhile_prefix ..

/-- White space is dropped at the end of the last line only, if that line is not blank. -/
theorem trimEnd_append (front : List Char) {last : List Char}
    (hlast : ¬ ∀ c ∈ last, Text.isWhiteSpace c = true) :
    trimEnd (front ++ last) = front ++ trimEnd last := by
  have hne : (last.reverse.dropWhile Text.isWhiteSpace).isEmpty = false := by
    rw [List.isEmpty_eq_false_iff, Ne, List.dropWhile_eq_nil_iff]
    exact fun h => hlast fun c hc => h c (List.mem_reverse.mpr hc)
  rw [trimEnd, trimEnd, List.reverse_append, List.dropWhile_append, hne, if_neg Bool.false_ne_true,
    List.reverse_append, List.reverse_reverse]

theorem trimEnd_cons {c : Char} (hc : Text.isWhiteSpace c = false) (text : List Char) :
    trimEnd (c :: text) = c :: trimEnd text := by
  by_cases h : ∀ d ∈ text, Text.isWhiteSpace d = true
  · have hnil : text.reverse.dropWhile Text.isWhiteSpace = [] :=
      List.dropWhile_eq_nil_iff.mpr fun d hd => h d (List.mem_reverse.mp hd)
    simp [trimEnd, List.dropWhile_append, hnil, hc]
  · exact trimEnd_append [c] h

theorem mem_of_mem_trimEnd {c : Char} {text : List Char} (h : c ∈ trimEnd text) : c ∈ text :=
  (isPrefix_trimEnd text).mem h

/-! ## The last line -/

/-- The last line begins after the last newline. -/
theorem lastLine_append (front : List Char) {last : List Char} (h : '\n' ∉ last) :
    lastLine (front ++ '\n' :: last) = last := by
  have hlast : ∀ c ∈ last.reverse, (c != '\n') = true := fun c hc =>
    bne_iff_ne.mpr fun hne => h (hne ▸ List.mem_reverse.mp hc)
  simp [lastLine, List.takeWhile_append_of_pos hlast]

/-- What is above the last line ends before the last newline. -/
theorem beforeLastLine_append (front : List Char) {last : List Char} (h : '\n' ∉ last) :
    beforeLastLine (front ++ '\n' :: last) = front := by
  have hlast : ∀ c ∈ last.reverse, (c != '\n') = true := fun c hc =>
    bne_iff_ne.mpr fun hne => h (hne ▸ List.mem_reverse.mp hc)
  simp [beforeLastLine, List.dropWhile_append_of_pos hlast]

theorem lastLine_of_notMem {line : List Char} (h : '\n' ∉ line) : lastLine line = line :=
  List.rtakeWhile_eq_self_iff.mpr fun _ hc => bne_iff_ne.mpr fun hne => h (hne ▸ hc)

theorem beforeLastLine_of_notMem {line : List Char} (h : '\n' ∉ line) :
    beforeLastLine line = [] := by
  have hnil : line.reverse.dropWhile (· != '\n') = [] :=
    List.dropWhile_eq_nil_iff.mpr fun c hc =>
      bne_iff_ne.mpr fun hne => h (hne ▸ List.mem_reverse.mp hc)
  rw [beforeLastLine, hnil]
  rfl

/-- A text is one line, or its last line stands below a newline. -/
theorem line_or_below (text : List Char) :
    '\n' ∉ text ∨ ∃ front last, '\n' ∉ last ∧ text = front ++ '\n' :: last := by
  refine or_iff_not_imp_left.mpr fun hmem => ?_
  obtain ⟨after, before, heq, hafter⟩ :=
    List.eq_append_cons_of_mem (List.mem_reverse.mpr (not_not.mp hmem))
  refine ⟨before.reverse, after.reverse, fun h => hafter (List.mem_reverse.mp h), ?_⟩
  rw [← List.reverse_reverse text, heq]
  simp

end Cellbook.Cell
