import Cellbook.Proofs.Channel.Delivery
import Cellbook.Proofs.Json.Members
import Cellbook.Proofs.Rendering.Written
import Mathlib.Data.List.Nodup

/-!
# Rendered results read back

What a rendered result shows is read back from its written form: a text from a JSON string, and a
bundle from a JSON object whose members are its entries, in order.  A text payload is the string
under its mime type, and a binary payload is what the strict reader of base64 finds in that string.

Insertion keeps the mime types of a bundle apart (`Bundle.Built.nodup`), so that no member of the
object hides another.
-/

namespace Cellbook

/-! ## Reading back -/

/-- The payload is read back from the string that stands for it. -/
def Payload.ReadBack : Payload → String → Prop
  | .text content, value => value = content
  | .binary content, value => Base64.decode? (Text.encode value) = some content

/-- The entry is read back from a member: the mime type is its key, and its value stands for the
payload. -/
def Bundle.EntryReadBack (entry : String × Payload) (member : String × String) : Prop :=
  member.1 = entry.1 ∧ entry.2.ReadBack member.2

/-- The result is read back from octets: from none if there is nothing to show, and otherwise from
one JSON string, or one JSON object with distinct keys. -/
def Rendered.ReadBack : Rendered → Bytes → Prop
  | .absent, octets => octets = []
  | .textual text, octets => Json.decode Json.text octets = .ok text
  | .bundle shown, octets => ∃ members, Json.decode Json.textObject octets = .ok members ∧
      (members.map Prod.fst).Nodup ∧ List.Forall₂ Bundle.EntryReadBack shown.entries members

/-! ## Bundles -/

namespace Bundle

/-- The bundles that are built by insertions into a bundle with one entry. -/
inductive Built : Bundle → Prop
  | single (mime : String) (payload : Payload) : Built (single mime payload)
  | insert {bundle : Bundle} (mime : String) (payload : Payload) (h : Built bundle) :
      Built (bundle.insert mime payload)

/-- No mime type stands in a bundle twice. -/
theorem Built.nodup {bundle : Bundle} (h : bundle.Built) :
    (bundle.entries.map Prod.fst).Nodup := by
  induction h with
  | single mime payload => exact List.nodup_singleton mime
  | insert mime payload _ ih => exact Keyed.nodup_keys_set mime payload ih

/-- A payload is read back from the text that stands for it. -/
theorem exists_spelled (payload : Payload) :
    ∃ value, payload.spelled = some value ∧ payload.ReadBack value := by
  cases payload with
  | text content => exact ⟨content, rfl, rfl⟩
  | binary content =>
      obtain ⟨value, hspelled, hvalue⟩ := Payload.exists_spelled_binary content
      exact ⟨value, hspelled, Base64.decode?_eq_some_iff.mpr hvalue⟩

/-- The object that a bundle is written as means members from which the entries are read back. -/
theorem exists_texts (bundle : Bundle) :
    ∃ members, bundle.toValue.texts? = some members ∧
      List.Forall₂ EntryReadBack bundle.entries members := by
  rw [toValue, Json.Value.texts?]
  induction bundle.entries with
  | nil => exact ⟨[], rfl, .nil⟩
  | cons entry entries ih =>
      obtain ⟨members, hmembers, hread⟩ := ih
      obtain ⟨value, hspelled, hpayload⟩ := exists_spelled entry.2
      refine ⟨(entry.1, value) :: members, ?_, .cons ⟨rfl, hpayload⟩ hread⟩
      rw [List.map_cons, List.mapM_cons, hmembers]
      simp [Json.textMember?, Json.Value.text?, hspelled]

theorem map_fst_of_entryReadBack {entries : List (String × Payload)}
    {members : List (String × String)} (h : List.Forall₂ EntryReadBack entries members) :
    members.map Prod.fst = entries.map Prod.fst := by
  induction h with
  | nil => rfl
  | cons hentry _ ih => rw [List.map_cons, List.map_cons, hentry.1, ih]

end Bundle

/-! ## Results -/

namespace Rendered

/-- A result whose bundle, if it is one, is built by insertions. -/
def Built : Rendered → Prop
  | .bundle shown => shown.Built
  | _ => True

theorem readBack_wire {rendered : Rendered} (h : rendered.Built) :
    rendered.ReadBack rendered.wire := by
  cases rendered with
  | absent => rfl
  | textual text =>
      have hwire : (textual text).wire = Text.encode (Json.quote text) := by simp [wire, sends]
      rw [hwire]
      exact Json.decode_quote text
  | bundle shown =>
      obtain ⟨members, hmembers, hread⟩ := Bundle.exists_texts shown
      have htext : shown.toValue.Text (bundle shown).wire := .of_form shown.form_sends
      have hkeys : (members.map Prod.fst).Nodup := by
        rw [Bundle.map_fst_of_entryReadBack hread]
        exact Bundle.Built.nodup h
      exact ⟨members, (Json.understands_textObject.decode_eq_ok_iff htext).mpr hmembers, hkeys,
        hread⟩

/-- On a channel that does not fail, a result is written as octets from which it is read back, and
none of which is a control character. -/
theorem writeTo_readBack {σ : Type} {channel : Channel σ} {good : σ → Prop} {delivered : σ → Bytes}
    {state : σ} (hchannel : channel.Faithful good delivered) (hstate : good state)
    {rendered : Rendered} (h : rendered.Built) :
    (rendered.writeTo channel state).2 = .ok () ∧
      ∃ octets, delivered (rendered.writeTo channel state).1 = delivered state ++ octets ∧
        rendered.ReadBack octets ∧ Printable octets :=
  ⟨hchannel.sendAll_succeeds hstate _, rendered.wire, hchannel.delivered_sendAll hstate _,
    readBack_wire h, printable_wire rendered⟩

/-- A text that replaced another, and the first octets of an image, set down send by send. -/
theorem writeTo_readBack_image :
    let shown := ((Bundle.single "text/plain" (.text "a\n\"b\"")).insert "image/png"
      (.binary [0x89, 0x50, 0x4e, 0x47])).insert "text/plain" (.text "c")
    let written := (Rendered.bundle shown).writeTo Recorder.channel (.empty none)
    written.2 = .ok () ∧ ∃ octets, written.1.sends.flatten = octets ∧
      (Rendered.bundle shown).ReadBack octets ∧ Printable octets := by
  intro shown written
  have hbuilt : shown.Built :=
    .insert "text/plain" (.text "c") (.insert "image/png" (.binary [0x89, 0x50, 0x4e, 0x47])
      (.single "text/plain" (.text "a\n\"b\"")))
  have hresult : (Rendered.bundle shown).Built := hbuilt
  exact writeTo_readBack Recorder.faithful_channel rfl hresult

end Rendered

end Cellbook
