import Cellbook.Json.Number
import Cellbook.Proofs.Json.Quoted
import Mathlib.Data.List.Basic

/-!
# Decimal digits

What is written of a count is its decimal digits (`encode_toString`).  Only zero begins with the
digit of zero, and of a count that fits 64 bits the digits come to the count again
(`value_digitOctets`).
-/

namespace Cellbook.Json

/-! ## Digits of counts -/

/-- The octets of the decimal digits of a number. -/
def digitOctets (n : Nat) : Bytes := (Nat.toDigits 10 n).map Char.toUInt8

theorem encode_toString (n : Nat) : Text.encode (toString n) = digitOctets n := by
  have hchar : ∀ c ∈ Nat.toDigits 10 n, String.utf8EncodeChar c = [c.toUInt8] := by
    intro c hc
    have hdigit := Nat.isDigit_of_mem_toDigits (by decide) (by decide) hc
    have hcode : c.toNat < 0x80 := by
      have hnine : '9'.toNat = 0x39 := rfl
      rw [Char.isDigit_iff_toNat] at hdigit
      omega
    rw [utf8EncodeChar_ascii hcode]
    rfl
  rw [Text.encode, Nat.toString_eq_repr, Nat.toList_repr, List.flatMap_congr hchar]
  exact List.map_eq_flatMap.symm

theorem digitOctets_ne_nil (n : Nat) : digitOctets n ≠ [] :=
  mt List.map_eq_nil_iff.mp Nat.toDigits_ne_nil

theorem digitOctets_lt {n : Nat} (h : n < 10) : digitOctets n = [n.digitChar.toUInt8] := by
  rw [digitOctets, Nat.toDigits_of_lt_base h]
  rfl

/-- The last digit of a number is what is left of it by ten. -/
theorem digitOctets_ge {n : Nat} (h : 10 ≤ n) :
    digitOctets n = digitOctets (n / 10) ++ [(n % 10).digitChar.toUInt8] := by
  rw [digitOctets, Nat.toDigits_eq_if (by decide), if_neg (by omega), List.map_append]
  rfl

theorem digitValue_digitChar : ∀ d < 10, digitValue d.digitChar.toUInt8 = d := by decide

theorem isDigit_digitChar : ∀ d < 10, isDigit d.digitChar.toUInt8 = true := by decide

theorem isDigit_of_mem {n : Nat} : ∀ b ∈ digitOctets n, isDigit b = true := by
  induction n using Nat.strongRecOn with
  | ind n ih =>
    by_cases h : n < 10
    · rw [digitOctets_lt h]
      intro b hb
      rw [List.mem_singleton.mp hb]
      exact isDigit_digitChar n h
    · rw [digitOctets_ge (by omega)]
      intro b hb
      rcases List.mem_append.mp hb with hb | hb
      · exact ih (n / 10) (by omega) b hb
      · rw [List.mem_singleton.mp hb]
        exact isDigit_digitChar (n % 10) (by omega)

/-- Only zero begins with the digit of zero. -/
theorem eq_zero_of_head {n : Nat} {rest : Bytes} (h : digitOctets n = '0'.toUInt8 :: rest) :
    n = 0 := by
  induction n using Nat.strongRecOn generalizing rest with
  | ind n ih =>
    by_cases hless : n < 10
    · rw [digitOctets_lt hless] at h
      have hdigit : ∀ d < 10, d.digitChar.toUInt8 = '0'.toUInt8 → d = 0 := by decide
      exact hdigit n hless (List.cons.inj h).1
    · have hlonger : digitOctets n = digitOctets (n / 10) ++ [(n % 10).digitChar.toUInt8] :=
        digitOctets_ge (by omega)
      obtain ⟨first, more, hfirst⟩ := List.exists_cons_of_ne_nil (digitOctets_ne_nil (n / 10))
      rw [hlonger, hfirst, List.cons_append] at h
      have hzero : n / 10 = 0 := ih (n / 10) (by omega) (hfirst.trans (by rw [(List.cons.inj h).1]))
      omega

/-- Digits that fit 64 bits so far, and with one more. -/
theorem appendDigits_concat {value longer : Nat} {octets : Bytes} {b : UInt8}
    (h : appendDigits value octets = (longer, 0))
    (hb : longer * 10 + digitValue b ≤ maxNatural) :
    appendDigits value (octets ++ [b]) = (longer * 10 + digitValue b, 0) := by
  induction octets generalizing value with
  | nil =>
      obtain rfl : value = longer := congrArg Prod.fst h
      rw [List.nil_append, appendDigits]
      simp only [hb, if_true]
      rfl
  | cons c octets ih =>
      rw [appendDigits] at h
      split at h
      · next hfits =>
          rw [List.cons_append, appendDigits, if_pos hfits]
          exact ih h
      · cases h

theorem appendDigits_digitOctets {n : Nat} (h : n ≤ maxNatural) :
    appendDigits 0 (digitOctets n) = (n, 0) := by
  induction n using Nat.strongRecOn with
  | ind n ih =>
    by_cases hless : n < 10
    · have hvalue : digitValue n.digitChar.toUInt8 = n := digitValue_digitChar n hless
      rw [digitOctets_lt hless]
      simp [appendDigits, hvalue, h]
    · have hvalue := digitValue_digitChar (n % 10) (by omega)
      have hlonger : n / 10 * 10 + n % 10 = n := by omega
      have hfirst := ih (n / 10) (by omega) (by omega)
      have hfits : n / 10 * 10 + digitValue (n % 10).digitChar.toUInt8 ≤ maxNatural := by
        rw [hvalue, hlonger]
        exact h
      rw [digitOctets_ge (by omega), appendDigits_concat hfirst hfits, hvalue, hlonger]

/-- The value of the digits of a count. -/
theorem value_digitOctets {n : Nat} (h : n ≤ maxNatural) :
    Numeral.value ⟨false, digitOctets n, none, none⟩ = .ok (.natural n) := by
  simp [Numeral.value, appendDigits_digitOctets h]

/-! ## Octets that are digits -/

theorem isBlank_of_isDigit {b : UInt8} (h : isDigit b = true) : isBlank b = false := by
  rw [Bool.eq_false_iff]
  intro hblank
  simp only [isBlank, Bool.or_eq_true, beq_iff_eq] at hblank
  rcases hblank with ((rfl | rfl) | rfl) | rfl <;> cases h

theorem ne_minus_of_isDigit {b : UInt8} (h : isDigit b = true) : b ≠ '-'.toUInt8 := by
  rintro rfl
  cases h

end Cellbook.Json
