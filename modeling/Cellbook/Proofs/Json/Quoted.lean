import Cellbook.Json.Quoted
import Cellbook.Proofs.Text.Utf8

/-!
# Octets of quoted strings

What `quote` writes is octets between quotes (`encode_quote`), those of the escapes of its
characters one after another.  An octet that needs no escape stands for itself (`IsPlain`), and so
do all octets of a character that is not escaped (`isPlain_of_char`).
-/

namespace Cellbook.Json

/-! ## Octets of characters -/

theorem utf8EncodeChar_ascii {c : Char} (h : c.toNat < 0x80) :
    String.utf8EncodeChar c = [UInt8.ofNat c.toNat] := by
  have hc : c.val.toNat ≤ 0x7f := Nat.le_of_lt_succ h
  rw [String.utf8EncodeChar, if_pos hc]
  rfl

/-- Octets of ASCII are a text. -/
theorem exists_encode_eq {octets : Bytes} (h : ∀ b ∈ octets, b < 0x80) :
    ∃ content, Text.encode content = octets := by
  refine ⟨String.ofList (octets.map fun b => Char.ofNat b.toNat), ?_⟩
  rw [Text.encode, String.toList_ofList]
  induction octets with
  | nil => rfl
  | cons b octets ih =>
      have hb : b.toNat < 0x80 := h b List.mem_cons_self
      have hcode : (Char.ofNat b.toNat).toNat = b.toNat := by
        rw [Char.ofNat, dif_pos (.inl (by omega))]
        rfl
      have hchar : String.utf8EncodeChar (Char.ofNat b.toNat) = [b] := by
        rw [utf8EncodeChar_ascii (by omega), hcode, UInt8.ofNat_toNat]
      rw [List.map_cons, List.flatMap_cons, hchar, ih fun b hb => h b (List.mem_cons_of_mem _ hb)]
      rfl

/-- An octet of a character is its code, or lies outside ASCII. -/
theorem octet_of_char {c : Char} {b : UInt8} :
    b ∈ String.utf8EncodeChar c → b.toNat = c.toNat ∨ 0x80 ≤ b.toNat := by
  have hcode : c.toNat = c.val.toNat := rfl
  have hoctet : ∀ n, (UInt8.ofNat n).toNat = n % 0x100 := fun n => UInt8.toNat_ofNat'
  fun_cases String.utf8EncodeChar c <;> grind

theorem eq_ofNat_of_toNat {c : Char} {n : Nat} (h : c.toNat = n) : c = Char.ofNat n := by
  rw [← h, Char.ofNat_toNat]

theorem utf8EncodeChar_hexDigit : ∀ d < 16,
    String.utf8EncodeChar (hexDigit d) = [(hexDigit d).toUInt8] := by decide

/-! ## Octets that stand for themselves -/

/-- An octet that stands for itself in a string. -/
def IsPlain (b : UInt8) : Prop := b ≠ '"'.toUInt8 ∧ b ≠ '\\'.toUInt8 ∧ ¬ b < 0x20

/-- The octets of a character that is not escaped stand for themselves. -/
theorem isPlain_of_char {c : Char} {b : UInt8} (hquote : c ≠ '"') (hslash : c ≠ '\\')
    (hcontrol : 0x20 ≤ c.toNat) (h : b ∈ String.utf8EncodeChar c) : IsPlain b := by
  have hcode : ∀ d : Char, d.toNat < 0x80 → c ≠ d → b ≠ UInt8.ofNat d.toNat := by
    intro d hd hne hb
    have hoctet : b.toNat = d.toNat := by rw [hb, Text.toNat_ofNat_octet (by omega)]
    rcases octet_of_char h with hc | hc
    · exact hne (Char.toNat_inj.mp (hc.symm.trans hoctet))
    · omega
  refine ⟨hcode '"' (by decide) hquote, hcode '\\' (by decide) hslash, ?_⟩
  rw [UInt8.lt_iff_toNat_lt]
  rcases octet_of_char h with hc | hc <;> simp <;> omega

/-! ## Strings -/

/-- The octets between the quotes of a written string. -/
def contentOctets (text : String) : Bytes :=
  (text.toList.flatMap escape).flatMap String.utf8EncodeChar

theorem encode_quote (text : String) :
    Text.encode (quote text) = '"'.toUInt8 :: (contentOctets text ++ ['"'.toUInt8]) := by
  have hquote : String.utf8EncodeChar '"' = ['"'.toUInt8] := rfl
  simp only [Text.encode, quote, String.toList_ofList, List.cons_append, List.flatMap_cons,
    List.flatMap_append, List.flatMap_nil, List.append_nil, List.nil_append, hquote, contentOctets]

end Cellbook.Json
