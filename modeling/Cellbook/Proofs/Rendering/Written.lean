import Cellbook.Proofs.Json.Meaning
import Cellbook.Proofs.Text.Base64
import Cellbook.Rendering.Rendered

/-!
# The written form of a rendered result

Cut into sends, the written form of a bundle is a text of an object of strings
(`Bundle.form_sends`), so that of a result is one JSON value unless there is nothing to show
(`Rendered.isValue_wire`).  It holds no control character (`Rendered.printable_wire`), and no send
is empty (`Rendered.sends_ne_nil`).
-/

namespace Cellbook

open Json (IsPlain IsStringOf IsValue Value)

/-! ## Base64 -/

namespace Base64

theorem isPlain_digit : ∀ n < 64, IsPlain (digit n) := by
  have hdigits : ∀ n < 64, digit n ≠ '"'.toUInt8 ∧ digit n ≠ '\\'.toUInt8 ∧ ¬ digit n < 0x20 := by
    decide
  exact hdigits

theorem isPlain_padding : IsPlain padding := ⟨by decide, by decide, by decide⟩

/-- The octets of an encoded form stand for themselves in a string. -/
theorem isPlain_encode (bytes : Bytes) : ∀ b ∈ encode bytes, IsPlain b :=
  forall_mem_encode isPlain_digit isPlain_padding bytes

/-- No line is empty. -/
theorem lines_ne_nil {bytes line : Bytes} (h : line ∈ lines bytes) : line ≠ [] := by
  obtain ⟨piece, hpiece, rfl⟩ := List.mem_map.mp h
  exact mt encode_eq_nil_iff.mp (cutUpTo_ne_nil (by decide) hpiece)

theorem isPlain_lines {bytes : Bytes} {b : UInt8} (h : b ∈ (lines bytes).flatten) : IsPlain b :=
  isPlain_encode bytes b (flatten_lines bytes ▸ h)

end Base64

/-! ## Octets that are no control characters -/

/-- No octet is a control character. -/
def Printable (octets : Bytes) : Prop := ∀ b ∈ octets, ¬ b < 0x20

theorem Printable.append {octets more : Bytes} (h : Printable octets) (hmore : Printable more) :
    Printable (octets ++ more) := by
  intro b hb
  rcases List.mem_append.mp hb with hb | hb
  · exact h b hb
  · exact hmore b hb

theorem printable_of_isPlain {octets : Bytes} (h : ∀ b ∈ octets, IsPlain b) : Printable octets :=
  fun b hb => (h b hb).2.2

/-- The octets of characters that are no control characters. -/
theorem printable_flatMap_encodeChar {chars : List Char} (h : ∀ c ∈ chars, 0x20 ≤ c.toNat) :
    Printable (chars.flatMap String.utf8EncodeChar) := by
  intro b hb
  obtain ⟨c, hc, hb⟩ := List.mem_flatMap.mp hb
  have hcode := h c hc
  rw [UInt8.lt_iff_toNat_lt]
  rcases Json.octet_of_char hb with hb | hb <;> simp <;> omega

namespace Json

/-- A written character holds no control character. -/
theorem le_of_mem_escape {c d : Char} (h : d ∈ escape c) : 0x20 ≤ d.toNat := by
  have hdigit : ∀ n < 16, 0x20 ≤ (hexDigit n).toNat := by decide
  have hletters : ∀ e ∈ letterEscapes, 0x20 ≤ e.1.toNat := by decide
  rcases escape_cases c with ⟨letter, hletter, hc⟩ | ⟨hcontrol, hc⟩ | ⟨-, -, hcode, hc⟩
  · rw [hc] at h
    simp only [List.mem_cons, List.not_mem_nil, or_false] at h
    rcases h with rfl | rfl
    · decide
    · exact hletters _ hletter
  · rw [hc] at h
    simp only [List.mem_cons, List.not_mem_nil, or_false] at h
    rcases h with rfl | rfl | rfl | rfl | rfl | rfl
    · decide
    · decide
    · decide
    · decide
    · exact hdigit _ (by omega)
    · exact hdigit _ (by omega)
  · rw [hc, List.mem_singleton] at h
    exact h ▸ hcode

theorem printable_quote (text : String) : Printable (Text.encode (quote text)) := by
  have hcontent : Printable (contentOctets text) := by
    refine printable_flatMap_encodeChar fun d hd => ?_
    obtain ⟨c, -, hd⟩ := List.mem_flatMap.mp hd
    exact le_of_mem_escape hd
  have hquote : Printable ['"'.toUInt8] := by
    intro b hb
    rw [List.mem_singleton.mp hb]
    decide
  rw [encode_quote]
  exact hquote.append (hcontent.append hquote)

end Json

/-! ## Payloads -/

namespace Payload

/-- The text that stands for a payload: the text that it is, or its octets in base64. -/
def spelled : Payload → Option String
  | .text content => some content
  | .binary content => Text.decode? (Base64.encode content)

theorem exists_spelled_binary (content : Bytes) :
    ∃ value, (binary content).spelled = some value ∧ Text.encode value = Base64.encode content := by
  obtain ⟨value, hvalue⟩ := Json.exists_encode_eq (Base64.isAscii_encode content)
  refine ⟨value, ?_, hvalue⟩
  rw [spelled, ← hvalue, Text.decode?_encode]

end Payload

/-! ## Bundles -/

namespace Bundle

/-- A written payload is a string of the text that stands for it. -/
theorem isStringOf_payloadSends (payload : Payload) :
    IsStringOf payload.spelled (payloadSends payload).flatten := by
  cases payload with
  | text content => simpa [payloadSends, Payload.spelled] using Json.isStringOf_quote content
  | binary content =>
      obtain ⟨value, hspelled, hvalue⟩ := Payload.exists_spelled_binary content
      have hquote : Text.encode "\"" = ['"'.toUInt8] := rfl
      have hplain : ∀ b ∈ Text.encode value, IsPlain b := hvalue ▸ Base64.isPlain_encode content
      have hoctets : (payloadSends (.binary content)).flatten =
          '"'.toUInt8 :: (Text.encode value ++ ['"'.toUInt8]) := by
        simp [payloadSends, Base64.flatten_lines, hvalue, hquote]
      rw [hspelled, hoctets]
      exact Json.isStringOf_plain hplain

/-- Separated groups of sends are, put together, the groups put together and separated. -/
theorem flatten_intersperse (separator : Bytes) (groups : List (List Bytes)) :
    (groups.intersperse [separator]).flatten.flatten =
      separator.intercalate (groups.map List.flatten) := by
  induction groups with
  | nil => rfl
  | cons group groups ih =>
      cases groups with
      | nil => simp
      | cons next groups =>
          rw [List.map_cons, List.map_cons, List.intercalate_cons_cons, ← List.map_cons, ← ih]
          simp

/-- The object of which the written form of a bundle is a text: under each mime type, the text that
stands for the payload. -/
def toValue (bundle : Bundle) : Value :=
  .object (bundle.entries.map fun entry => (some entry.1, .string entry.2.spelled))

theorem form_sends (bundle : Bundle) : bundle.toValue.Form bundle.sends.flatten := by
  have hopen : Text.encode "\x7b" = [0x7b] := rfl
  have hclose : Text.encode "\x7d" = [0x7d] := rfl
  have hcomma : Text.encode "," = [','.toUInt8] := rfl
  have hcolon : Text.encode ":" = [':'.toUInt8] := rfl
  have hoctets : bundle.sends.flatten = 0x7b :: ([','.toUInt8].intercalate
      (bundle.entries.map fun entry => (entrySends entry).flatten) ++ [0x7d]) := by
    rw [sends, hopen, hclose, hcomma, List.flatten_append, List.flatten_append, flatten_intersperse,
      List.map_map]
    simp [Function.comp_def]
  rw [hoctets]
  refine Json.form_object ?_
  rw [List.forall₂_map_left_iff, List.forall₂_map_right_iff, List.forall₂_same]
  intro entry _
  refine ⟨_, _, Json.isStringOf_quote entry.1, isStringOf_payloadSends entry.2, ?_⟩
  simp [entrySends, hcolon]

theorem mem_intersperse {α : Type} {separator a : α} {items : List α}
    (h : a ∈ items.intersperse separator) : a = separator ∨ a ∈ items := by
  fun_induction List.intersperse separator items <;> grind

/-- What stands between the strings of a written bundle, and around its base64. -/
def punctuation : List Bytes := ["\x7b", ",", ":", "\"", "\x7d"].map Text.encode

theorem mem_payloadSends {payload : Payload} {octets : Bytes} (h : octets ∈ payloadSends payload) :
    octets ∈ punctuation ∨ (∃ text, octets = Text.encode (Json.quote text)) ∨
      ∃ content, octets ∈ Base64.lines content := by
  cases payload with
  | text content => exact .inr (.inl ⟨content, List.mem_singleton.mp h⟩)
  | binary content =>
      simp only [payloadSends, List.mem_append, List.mem_singleton] at h
      rcases h with (h | h) | h
      · exact .inl (by simp [h, punctuation])
      · exact .inr (.inr ⟨content, h⟩)
      · exact .inl (by simp [h, punctuation])

/-- A send of a bundle is punctuation, a written string or a line of base64. -/
theorem mem_sends {bundle : Bundle} {octets : Bytes} (h : octets ∈ bundle.sends) :
    octets ∈ punctuation ∨ (∃ text, octets = Text.encode (Json.quote text)) ∨
      ∃ content, octets ∈ Base64.lines content := by
  simp only [sends, List.mem_append, List.mem_singleton, List.mem_flatten] at h
  rcases h with (h | ⟨group, hgroup, h⟩) | h
  · exact .inl (by simp [h, punctuation])
  · have hmem : group = [Text.encode ","] ∨ group ∈ bundle.entries.map entrySends :=
      mem_intersperse hgroup
    rcases hmem with hcomma | hmem
    · rw [hcomma, List.mem_singleton] at h
      exact .inl (by simp [h, punctuation])
    · obtain ⟨entry, -, rfl⟩ := List.mem_map.mp hmem
      simp only [entrySends, List.mem_cons] at h
      rcases h with h | h | h
      · exact .inr (.inl ⟨entry.1, h⟩)
      · exact .inl (by simp [h, punctuation])
      · exact mem_payloadSends h
  · exact .inl (by simp [h, punctuation])

theorem printable_of_mem_sends {bundle : Bundle} {octets : Bytes} (h : octets ∈ bundle.sends) :
    Printable octets := by
  rcases mem_sends h with h | ⟨text, h⟩ | ⟨content, h⟩
  · have hpunctuation : punctuation.all (·.all fun b => decide (¬ b < 0x20)) = true := by decide
    intro b hb
    exact of_decide_eq_true (List.all_eq_true.mp (List.all_eq_true.mp hpunctuation octets h) b hb)
  · exact h ▸ Json.printable_quote text
  · exact printable_of_isPlain fun b hb => Base64.isPlain_lines (List.mem_flatten.mpr ⟨_, h, hb⟩)

/-- No send of a bundle is empty. -/
theorem sends_ne_nil {bundle : Bundle} {octets : Bytes} (h : octets ∈ bundle.sends) :
    octets ≠ [] := by
  rcases mem_sends h with h | ⟨text, h⟩ | ⟨content, h⟩
  · have hpunctuation : ∀ octets ∈ punctuation, octets ≠ [] := by decide
    exact hpunctuation octets h
  · rw [h, Json.encode_quote]
    exact List.cons_ne_nil _ _
  · exact Base64.lines_ne_nil h

end Bundle

/-! ## Results -/

namespace Rendered

/-- The written form of a result. -/
def wire (rendered : Rendered) : Bytes := rendered.sends.flatten

@[simp] theorem wire_absent : Rendered.absent.wire = [] := rfl

/-- The written form of a result is one JSON value, unless there is nothing to show. -/
theorem isValue_wire {rendered : Rendered} (h : rendered ≠ .absent) : IsValue rendered.wire := by
  cases rendered with
  | absent => exact absurd rfl h
  | textual text =>
      have htext : (Value.string (some text)).Text (Text.encode (Json.quote text)) :=
        .of_form (Json.form_quote text)
      simpa [wire, sends] using htext.isValue
  | bundle shown =>
      have htext : shown.toValue.Text shown.sends.flatten := .of_form shown.form_sends
      exact htext.isValue

theorem printable_of_mem_sends {rendered : Rendered} {octets : Bytes}
    (h : octets ∈ rendered.sends) : Printable octets := by
  cases rendered with
  | absent => cases h
  | textual text => exact List.mem_singleton.mp h ▸ Json.printable_quote text
  | bundle shown => exact Bundle.printable_of_mem_sends h

/-- The written form of a result holds no control character. -/
theorem printable_wire (rendered : Rendered) : Printable rendered.wire := by
  intro b hb
  obtain ⟨octets, hoctets, hb⟩ := List.mem_flatten.mp hb
  exact printable_of_mem_sends hoctets b hb

/-- No send of a result is empty. -/
theorem sends_ne_nil {rendered : Rendered} {octets : Bytes} (h : octets ∈ rendered.sends) :
    octets ≠ [] := by
  cases rendered with
  | absent => cases h
  | textual text =>
      rw [List.mem_singleton.mp h, Json.encode_quote]
      exact List.cons_ne_nil _ _
  | bundle shown => exact Bundle.sends_ne_nil h

end Rendered

end Cellbook
