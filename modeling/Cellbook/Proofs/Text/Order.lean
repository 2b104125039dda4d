import Cellbook.Text.Utf8
import Mathlib.Data.String.Basic

/-!
# The order of encoded texts

Texts are ordered by their characters, and octets by their numbers.  Encoding keeps the order
(`encode_lt_encode_iff`): of two characters, the lesser one has the lesser octets, and these differ
before either has ended, so that it does not matter what follows.
-/

namespace Cellbook.Text

/-- The octets of a lesser character come first, whatever follows. -/
theorem encodeChar_append_lt {c d : Char} (h : c < d) (rest more : Bytes) :
    String.utf8EncodeChar c ++ rest < String.utf8EncodeChar d ++ more := by
  have hcode : c.val.toNat < d.val.toNat := h
  have hvalid : d.val.isValidChar := d.valid
  -- Each octet but the last takes six bits off what is left of the code.
  have hsecond (n : Nat) : n / 4096 = n / 64 / 64 := by rw [Nat.div_div_eq_div_mul]
  have hthird (n : Nat) : n / 262144 = n / 64 / 64 / 64 := by
    rw [Nat.div_div_eq_div_mul, Nat.div_div_eq_div_mul]
  fun_cases String.utf8EncodeChar c <;> fun_cases String.utf8EncodeChar d <;>
    simp only [List.cons_append, List.cons_lt_cons_iff, UInt8.lt_iff_toNat_lt, ← UInt8.toNat_inj,
      UInt8.toNat_ofNat', hsecond, hthird] <;>
    omega

theorem encodeChar_ne_nil (c : Char) : String.utf8EncodeChar c ≠ [] := by
  fun_cases String.utf8EncodeChar c <;> exact List.cons_ne_nil _ _

theorem flatMap_encodeChar_lt {chars others : List Char} (h : chars < others) :
    chars.flatMap String.utf8EncodeChar < others.flatMap String.utf8EncodeChar := by
  induction chars generalizing others with
  | nil =>
      cases others with
      | nil => exact absurd h (List.lt_irrefl [])
      | cons d others =>
          rw [List.flatMap_nil, List.flatMap_cons]
          obtain ⟨b, octets, hoctets⟩ := List.exists_cons_of_ne_nil (encodeChar_ne_nil d)
          rw [hoctets]
          exact List.nil_lt_cons b _
  | cons c chars ih =>
      cases others with
      | nil => exact absurd h (List.not_lt_nil _)
      | cons d others =>
          rw [List.flatMap_cons, List.flatMap_cons]
          rcases List.cons_lt_cons_iff.mp h with hless | ⟨rfl, hrest⟩
          · exact encodeChar_append_lt hless _ _
          · exact List.append_left_lt (ih hrest)

/-- Encoded texts are in the order of the texts. -/
theorem encode_lt_encode_iff (text other : String) : encode text < encode other ↔ text < other := by
  refine ⟨fun h => ?_, flatMap_encodeChar_lt⟩
  rcases lt_trichotomy text other with hless | rfl | hgreater
  · exact hless
  · exact absurd h (List.lt_irrefl _)
  · exact absurd (flatMap_encodeChar_lt hgreater) (List.lt_asymm h)

end Cellbook.Text
