import Cellbook.Text.Utf8

/-!
# Reading back encoded texts

`decode?` is a left inverse of `encode`.  The reading machine carries at most one open character,
and the encoded form of a character takes it from no open character to no open character, so the
fact about texts is one induction over the fact about characters (`pieces_encodeChar`).
-/

namespace Cellbook.Text

/-! ## Octets -/

theorem toNat_ofNat_octet {n : Nat} (h : n < 256) : (UInt8.ofNat n).toNat = n :=
  UInt8.toNat_ofNat_of_lt' h

/-- An octet that carries six more bits of an open character that admits it. -/
theorem advance_continuation {missing n bits : Nat} {low high : UInt8} (hn : n < 64)
    (hlow : low.toNat ≤ n + 0x80) (hhigh : n + 0x80 ≤ high.toNat) :
    advance (UInt8.ofNat (n + 0x80)) (some ⟨missing + 2, low, high, bits⟩) =
      ([], some ⟨missing + 1, 0x80, 0xbf, bits * 0x40 + n⟩) := by
  have hoctet : (n + 0x80) % 0x100 = n + 0x80 := by omega
  have hbits : (n + 0x80) % 0x40 = n := by omega
  simp [advance, UInt8.le_iff_toNat_le, hoctet, hlow, hhigh, hbits]

/-- An octet that carries the last six bits of an open character. -/
theorem advance_last {n bits : Nat} (hn : n < 64) :
    advance (UInt8.ofNat (n + 0x80)) (some ⟨1, 0x80, 0xbf, bits⟩) =
      ([.char (Char.ofNat (bits * 0x40 + n))], none) := by
  have hoctet : (n + 0x80) % 0x100 = n + 0x80 := by omega
  have hbits : (n + 0x80) % 0x40 = n := by omega
  have hhigh : n + 0x80 ≤ 0xbf := by omega
  simp [advance, UInt8.le_iff_toNat_le, hoctet, hhigh, hbits]

/-- An octet below `0x80` is a character by itself. -/
theorem advance_ascii {n : Nat} (h : n < 0x80) :
    advance (UInt8.ofNat n) none = ([.char (Char.ofNat n)], none) := by
  rw [advance, begin, toNat_ofNat_octet (by omega), if_pos h]

/-- The lead of a character of two octets. -/
theorem advance_two {n : Nat} (hlow : 2 ≤ n) (hhigh : n < 0x20) :
    advance (UInt8.ofNat (n + 0xc0)) none = ([], some ⟨1, 0x80, 0xbf, n⟩) := by
  have hoctet : (UInt8.ofNat (n + 0xc0)).toNat = n + 0xc0 := toNat_ofNat_octet (by omega)
  have hbits : (n + 0xc0) % 0x20 = n := by omega
  rw [advance, begin, hoctet, if_neg (by omega), if_pos (by simp; omega), hbits]

/-- The lead of a character of three octets, with the bounds that leave out overlong forms and
surrogates. -/
theorem advance_three {n : Nat} (h : n < 0x10) :
    advance (UInt8.ofNat (n + 0xe0)) none =
      ([], some ⟨2, if n = 0 then 0xa0 else 0x80, if n = 0xd then 0x9f else 0xbf, n⟩) := by
  have hoctet : (UInt8.ofNat (n + 0xe0)).toNat = n + 0xe0 := toNat_ofNat_octet (by omega)
  have hbits : (n + 0xe0) % 0x10 = n := by omega
  have hfirst : n + 0xe0 = 0xe0 ↔ n = 0 := by omega
  have hlast : n + 0xe0 = 0xed ↔ n = 0xd := by omega
  rw [advance, begin, hoctet, if_neg (by omega), if_neg (by simp), if_pos (by simp; omega), hbits]
  simp only [beq_iff_eq, hfirst, hlast]

/-- The lead of a character of four octets, with the bounds that leave out overlong forms and what
lies past the last character. -/
theorem advance_four {n : Nat} (h : n ≤ 4) :
    advance (UInt8.ofNat (n + 0xf0)) none =
      ([], some ⟨3, if n = 0 then 0x90 else 0x80, if n = 4 then 0x8f else 0xbf, n⟩) := by
  have hoctet : (UInt8.ofNat (n + 0xf0)).toNat = n + 0xf0 := toNat_ofNat_octet (by omega)
  have hbits : (n + 0xf0) % 0x08 = n := by omega
  have hfirst : n + 0xf0 = 0xf0 ↔ n = 0 := by omega
  have hlast : n + 0xf0 = 0xf4 ↔ n = 4 := by omega
  rw [advance, begin, hoctet, if_neg (by omega), if_neg (by simp), if_neg (by simp),
    if_pos (by simp; omega), hbits]
  simp only [beq_iff_eq, hfirst, hlast]

/-! ## Characters -/

theorem toNat_valid (c : Char) : c.toNat < 0xd800 ∨ 0xdfff < c.toNat ∧ c.toNat < 0x110000 :=
  c.valid

theorem pieces_cons {state next : Option Pending} {b : UInt8} {read : List Piece}
    (h : advance b state = (read, next)) (rest : Bytes) :
    pieces state (b :: rest) = read ++ pieces next rest := by
  cases state <;> rw [pieces, h]

theorem pieces_two {v : Nat} (hlow : 0x7f < v) (hhigh : v ≤ 0x7ff) (rest : Bytes) :
    pieces none (UInt8.ofNat (v / 64 % 0x20 + 0xc0) :: UInt8.ofNat (v % 0x40 + 0x80) :: rest) =
      .char (Char.ofNat v) :: pieces none rest := by
  have hvalue : v / 64 % 0x20 * 0x40 + v % 0x40 = v := by omega
  rw [pieces_cons (advance_two (by omega) (by omega)), pieces_cons (advance_last (by omega)),
    hvalue]
  rfl

theorem pieces_three {v : Nat} (hlow : 0x7ff < v) (hhigh : v ≤ 0xffff)
    (hvalid : v < 0xd800 ∨ 0xdfff < v) (rest : Bytes) :
    pieces none (UInt8.ofNat (v / 4096 % 0x10 + 0xe0) :: UInt8.ofNat (v / 64 % 0x40 + 0x80) ::
        UInt8.ofNat (v % 0x40 + 0x80) :: rest) =
      .char (Char.ofNat v) :: pieces none rest := by
  have hvalue : (v / 4096 % 0x10 * 0x40 + v / 64 % 0x40) * 0x40 + v % 0x40 = v := by omega
  rw [pieces_cons (advance_three (by omega)),
    pieces_cons (advance_continuation (by omega) ?low ?high),
    pieces_cons (advance_last (by omega)), hvalue]
  case low =>
    split
    · simp; omega
    · simp
  case high =>
    split
    · simp; omega
    · simp; omega
  rfl

theorem pieces_four {v : Nat} (hlow : 0xffff < v) (hhigh : v < 0x110000) (rest : Bytes) :
    pieces none (UInt8.ofNat (v / 262144 % 0x08 + 0xf0) ::
        UInt8.ofNat (v / 4096 % 0x40 + 0x80) :: UInt8.ofNat (v / 64 % 0x40 + 0x80) ::
        UInt8.ofNat (v % 0x40 + 0x80) :: rest) =
      .char (Char.ofNat v) :: pieces none rest := by
  have hvalue : ((v / 262144 % 0x08 * 0x40 + v / 4096 % 0x40) * 0x40 + v / 64 % 0x40) * 0x40 +
      v % 0x40 = v := by omega
  rw [pieces_cons (advance_four (by omega)),
    pieces_cons (advance_continuation (by omega) ?low ?high),
    pieces_cons (advance_continuation (by omega) (by simp) (by simp; omega)),
    pieces_cons (advance_last (by omega)), hvalue]
  case low =>
    split
    · simp; omega
    · simp
  case high =>
    split
    · simp; omega
    · simp; omega
  rfl

/-- The octets of a character are read as that character, whatever follows. -/
theorem pieces_encodeChar (c : Char) (rest : Bytes) :
    pieces none (String.utf8EncodeChar c ++ rest) = .char c :: pieces none rest := by
  have hc : Char.ofNat c.val.toNat = c := Char.ofNat_toNat c
  have hvalid : c.val.toNat < 0xd800 ∨ 0xdfff < c.val.toNat ∧ c.val.toNat < 0x110000 :=
    toNat_valid c
  fun_cases String.utf8EncodeChar c with
  | case1 v h =>
      rw [List.singleton_append, pieces_cons (advance_ascii (by omega)), hc]
      rfl
  | case2 v _ h => exact (pieces_two (by omega) h rest).trans (by rw [hc])
  | case3 v _ _ h => exact (pieces_three (by omega) h (by omega) rest).trans (by rw [hc])
  | case4 v _ _ _ => exact (pieces_four (by omega) (by omega) rest).trans (by rw [hc])

/-! ## Texts -/

theorem encode_append (text more : String) :
    encode (text ++ more) = encode text ++ encode more := by
  simp only [encode, String.toList_append, List.flatMap_append]

theorem pieces_flatMap_encodeChar (chars : List Char) (rest : Bytes) :
    pieces none (chars.flatMap String.utf8EncodeChar ++ rest) =
      chars.map .char ++ pieces none rest := by
  induction chars with
  | nil => rfl
  | cons c chars ih =>
      rw [List.flatMap_cons, List.append_assoc, pieces_encodeChar, ih]
      rfl

theorem mapM_char? (chars : List Char) :
    (chars.map Piece.char).mapM Piece.char? = some chars := by
  induction chars with
  | nil => rfl
  | cons c chars ih =>
      rw [List.map_cons, List.mapM_cons, ih]
      rfl

/-- The octets of a list of characters spell it. -/
theorem decode?_flatMap_encodeChar (chars : List Char) :
    decode? (chars.flatMap String.utf8EncodeChar) = some (String.ofList chars) := by
  have hpieces : pieces none (chars.flatMap String.utf8EncodeChar) = chars.map .char := by
    simpa [pieces] using pieces_flatMap_encodeChar chars []
  rw [decode?, hpieces, mapM_char?]
  rfl

/-- An encoded text reads back as itself. -/
theorem decode?_encode (text : String) : decode? (encode text) = some text := by
  rw [encode, decode?_flatMap_encodeChar, String.ofList_toList]

/-- Nothing is replaced in an encoded text. -/
theorem decodeLossy_encode (text : String) : decodeLossy (encode text) = text := by
  have hpieces : pieces none (encode text) = text.toList.map .char := by
    simpa [encode, pieces] using pieces_flatMap_encodeChar text.toList []
  have hchars : Piece.orReplacement ∘ Piece.char = id := rfl
  rw [decodeLossy, hpieces, List.map_map, hchars, List.map_id, String.ofList_toList]

end Cellbook.Text
