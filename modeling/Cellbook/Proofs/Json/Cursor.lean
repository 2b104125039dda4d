import Cellbook.Json.Cursor

/-!
# Places and parts

The place that octets lead to, and the parts of a list or an object, which have commas between them
and something that closes them all behind the last.
-/

namespace Cellbook.Json

/-! ## Places -/

/-- The place after a sequence of octets. -/
def Place.past (place : Place) (octets : Bytes) : Place := octets.foldl Place.after place

@[simp] theorem Place.past_nil (place : Place) : place.past [] = place := rfl

@[simp] theorem Place.past_cons (place : Place) (b : UInt8) (octets : Bytes) :
    place.past (b :: octets) = (place.after b).past octets := rfl

/-! ## Parts -/

/-- An octet that stands after an element or a member. -/
def Closes (b : UInt8) : Prop := b = ','.toUInt8 ∨ b = ']'.toUInt8 ∨ b = 0x7d

/-- Parts after a first one, each with a comma before it. -/
def laterParts (parts : List Bytes) : Bytes := parts.flatMap (','.toUInt8 :: ·)

theorem intercalate_cons (part : Bytes) (parts : List Bytes) :
    [','.toUInt8].intercalate (part :: parts) = part ++ laterParts parts := by
  induction parts generalizing part with
  | nil => simp [laterParts]
  | cons next parts ih =>
      rw [List.intercalate_cons_cons, ih, laterParts, laterParts, List.flatMap_cons]
      simp

theorem length_le_laterParts (parts : List Bytes) : parts.length ≤ (laterParts parts).length := by
  induction parts with
  | nil => exact Nat.le_refl 0
  | cons part parts ih =>
      rw [laterParts, List.flatMap_cons, ← laterParts, List.length_append, List.length_cons,
        List.length_cons]
      omega

/-- What follows a part is a comma, or what closes them all. -/
theorem exists_laterParts (parts : List Bytes) {close : UInt8} (h : Closes close) :
    ∃ b rest, laterParts parts ++ [close] = b :: rest ∧ Closes b := by
  cases parts with
  | nil => exact ⟨close, [], rfl, h⟩
  | cons part parts => exact ⟨','.toUInt8, _, rfl, .inl rfl⟩

end Cellbook.Json
