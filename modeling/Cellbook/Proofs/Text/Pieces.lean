import Cellbook.Text.Base64

/-!
# Pieces of one size

What comes of cutting a list into pieces of one size, the last of which may be shorter.  Each lemma
is by the recursion that cuts off one piece at a time.
-/

namespace Cellbook.Base64

variable {α : Type} {size pieces : Nat} {items piece : List α}

/-- Pieces put together are the list that was cut. -/
theorem flatten_cutUpTo (hsize : 0 < size) (hpieces : items.length ≤ pieces) :
    (cutUpTo size pieces items).flatten = items := by
  fun_induction cutUpTo size pieces items with
  | case1 items => exact (List.length_eq_zero_iff.mp (Nat.le_zero.mp hpieces)).symm
  | case2 => rfl
  | case3 pieces items hitems ih =>
      have hlength : 0 < items.length := List.length_pos_iff.mpr hitems
      have hrest : (items.drop size).length ≤ pieces := by
        rw [List.length_drop]
        omega
      rw [List.flatten_cons, ih hrest, List.take_append_drop]

/-- There are as many pieces as the size goes into the length, rounded up. -/
theorem length_cutUpTo (hsize : 0 < size) (hpieces : items.length ≤ pieces) :
    (cutUpTo size pieces items).length = (items.length + size - 1) / size := by
  fun_induction cutUpTo size pieces items with
  | case1 items =>
      rw [Nat.le_zero.mp hpieces]
      exact (Nat.div_eq_of_lt (by omega)).symm
  | case2 =>
      simp only [List.length_nil]
      exact (Nat.div_eq_of_lt (by omega)).symm
  | case3 pieces items hitems ih =>
      have hlength : 0 < items.length := List.length_pos_iff.mpr hitems
      have hdrop := List.length_drop (i := size) (l := items)
      have hrest : (items.drop size).length ≤ pieces := by omega
      have hcount : items.length + size - 1 = (items.length - 1) + size := by omega
      rw [List.length_cons, ih hrest, hcount, Nat.add_div_right _ hsize, Nat.succ_inj]
      by_cases hlast : items.length ≤ size
      · -- The piece cut off is the last one.
        rw [Nat.div_eq_of_lt (by omega), Nat.div_eq_of_lt (by omega)]
      · congr 1
        omega

/-- A piece is what is taken of what is left, if anything is. -/
theorem exists_of_mem_cutUpTo (h : piece ∈ cutUpTo size pieces items) :
    ∃ left, left ≠ [] ∧ piece = left.take size := by
  fun_induction cutUpTo size pieces items with
  | case1 => cases h
  | case2 => cases h
  | case3 pieces items hitems ih =>
      rcases List.mem_cons.mp h with rfl | h
      · exact ⟨items, hitems, rfl⟩
      · exact ih h

theorem length_le_of_mem_cutUpTo (h : piece ∈ cutUpTo size pieces items) : piece.length ≤ size := by
  obtain ⟨left, -, rfl⟩ := exists_of_mem_cutUpTo h
  exact List.length_take_le size left

theorem cutUpTo_ne_nil (hsize : 0 < size) (h : piece ∈ cutUpTo size pieces items) :
    piece ≠ [] := by
  obtain ⟨left, hleft, rfl⟩ := exists_of_mem_cutUpTo h
  exact mt List.take_eq_nil_iff.mp (not_or.mpr ⟨Nat.ne_of_gt hsize, hleft⟩)

/-- Every piece that another one follows has full size. -/
theorem length_eq_of_mem_dropLast_cutUpTo (h : piece ∈ (cutUpTo size pieces items).dropLast) :
    piece.length = size := by
  fun_induction cutUpTo size pieces items with
  | case1 => cases h
  | case2 => cases h
  | case3 pieces items hitems ih =>
      by_cases hlast : cutUpTo size pieces (items.drop size) = []
      · rw [hlast] at h
        cases h
      · rw [List.dropLast_cons_of_ne_nil hlast] at h
        rcases List.mem_cons.mp h with rfl | h
        · -- Something is left to be cut, so there was more than one piece of full size.
          have hrest : items.drop size ≠ [] := by
            intro hnil
            rw [hnil] at hlast
            cases pieces <;> exact hlast rfl
          have hmore : size < items.length := by
            simpa using hrest
          rw [List.length_take]
          omega
        · exact ih h

end Cellbook.Base64
