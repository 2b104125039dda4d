/-!
# Cutting at a mark

Cuts a sequence at every element that equals a mark.  The pieces hold no mark, there is one more of
them than there are marks, and joined by the mark they are the sequence again.
-/

namespace Cellbook.Text

variable {α : Type} [BEq α]

/-- Puts an element in front of the first of some pieces. -/
def consFirst (a : α) : List (List α) → List (List α)
  | [] => [[a]]
  | first :: rest => (a :: first) :: rest

/-- Cuts a sequence at every mark. -/
def cut (mark : α) : List α → List (List α)
  | [] => [[]]
  | a :: rest => if a == mark then [] :: cut mark rest else consFirst a (cut mark rest)

/-- There is always a piece. -/
theorem cut_ne_nil (mark : α) (l : List α) : cut mark l ≠ [] := by
  cases l with
  | nil => simp [cut]
  | cons a rest =>
    simp only [cut]
    split
    · simp
    · cases cut mark rest <;> simp [consFirst]

/-- There is one more piece than there are marks. -/
theorem length_cut (mark : α) (l : List α) : (cut mark l).length = l.count mark + 1 := by
  induction l with
  | nil => rfl
  | cons a rest ih =>
    have step (b : α) : (consFirst b (cut mark rest)).length = (cut mark rest).length := by
      cases h : cut mark rest with
      | nil => exact absurd h (cut_ne_nil mark rest)
      | cons first more => rfl
    simp only [cut, List.count_cons]
    split <;> simp_all

variable [LawfulBEq α] {mark : α}

/-- A mark cuts what is before it from what is after it. -/
theorem cut_append (l m : List α) : cut mark (l ++ mark :: m) = cut mark l ++ cut mark m := by
  induction l with
  | nil => simp [cut]
  | cons a l ih =>
      rw [List.cons_append, cut, cut, ih]
      split
      · rfl
      · rcases h : cut mark l with _ | ⟨first, rest⟩
        · exact absurd h (cut_ne_nil mark l)
        · rfl

theorem cut_of_notMem {l : List α} (h : mark ∉ l) : cut mark l = [l] := by
  induction l with
  | nil => rfl
  | cons a l ih =>
      rw [List.mem_cons, not_or] at h
      rw [cut, ih h.2, if_neg]
      · rfl
      · exact fun heq => h.1 (beq_iff_eq.mp heq).symm

end Cellbook.Text
