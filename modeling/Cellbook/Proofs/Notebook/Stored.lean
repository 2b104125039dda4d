import Cellbook.Notebook.Stored
import Cellbook.Proofs.Json.Keys

/-!
# Reading stored notebooks

A text is decoded to the document that its value means (`Document.decode_eq_ok_iff`).  The meaning
is by the values under the keys of a document and of its cells, so a document means the same with
its members in another order and with members that it does not know (`Document.Alike`).

A document is read back from its written form, which is a text of its value (`Document.toValue`).
-/

namespace Cellbook

open Json (Value IsBlanks)
open Json.Value (text? list? under single? hasTextKeys)

/-! ## Cells -/

namespace DocumentCell

/-- The cell that the members of an object mean.  Without a source it has no lines. -/
def ofMembers? (members : List (Option String × Value)) : Option DocumentCell :=
  if hasTextKeys members then
    (single? text? none (under "cell_type" members)).bind fun kind =>
      (single? (list? text?) none (under "source" members)).bind fun source =>
        kind.map fun kind => ⟨kind, source.getD []⟩
  else none

/-- The cell that a value means: an object, or a list of the kind and, unless it is left out, the
source. -/
def ofValue? : Value → Option DocumentCell
  | .object members => ofMembers? members
  | .list [kind] => kind.text?.map fun kind => ⟨kind, []⟩
  | .list [kind, source] =>
    kind.text?.bind fun kind => (source.list? text?).map fun source => ⟨kind, source⟩
  | _ => none

/-- What values mean as the fields of a cell. -/
def fieldMeaning : Json.Record.FieldMeaning Gathered := fun field read value =>
  if field.name = "cell_type" then value.text?.map fun kind => { read with kind := some kind }
  else (value.list? text?).map fun source => { read with source := some source }

theorem understood : Json.Record.Understood fieldMeaning record.fields := by
  intro field hfield read
  simp only [record, List.mem_cons, List.not_mem_nil, or_false] at hfield
  rcases hfield with rfl | rfl
  · exact Json.understands_text.map _
  · exact Json.understands_text.list.map _

theorem take?_kind (value : Value) (read : Gathered) :
    Json.Record.take? fieldMeaning record.fields "cell_type" value read =
      (if read.kind.isSome then none else value.text?).map fun kind =>
        { read with kind := some kind } := by
  cases h : read.kind <;> simp [Json.Record.take?, record, fieldMeaning, h]

theorem take?_source (value : Value) (read : Gathered) :
    Json.Record.take? fieldMeaning record.fields "source" value read =
      (if read.source.isSome then none else value.list? text?).map fun source =>
        { read with source := some source } := by
  cases h : read.source <;> simp [Json.Record.take?, record, fieldMeaning, h]

theorem take?_other {name : String} (hkind : name ≠ "cell_type") (hsource : name ≠ "source")
    (value : Value) (read : Gathered) :
    Json.Record.take? fieldMeaning record.fields name value read = some read := by
  simp [Json.Record.take?, record, hkind.symm, hsource.symm]

/-- What is gathered of a cell goes by the values under its two keys. -/
theorem gather?_eq (members : List (Option String × Value)) (read : Gathered) :
    Json.Record.gather? fieldMeaning record.fields members read =
      if hasTextKeys members then
        (single? text? read.kind (under "cell_type" members)).bind fun kind =>
          (single? (list? text?) read.source (under "source" members)).map fun source =>
            ⟨kind, source⟩
      else none := by
  induction members generalizing read with
  | nil => simp [Json.Record.gather?, hasTextKeys]
  | cons member members ih =>
      obtain ⟨key, value⟩ := member
      cases key with
      | none => simp [Json.Record.gather?]
      | some name =>
          rw [Json.Record.gather?, Option.bind_some, Json.Value.hasTextKeys_cons,
            Option.isSome_some, Bool.true_and]
          by_cases hkind : name = "cell_type"
          · subst hkind
            rw [take?_kind, Json.Value.under_cons_self, Json.Value.under_cons_of_ne (by decide),
              Json.Value.single?_cons, Option.bind_map, Option.bind_assoc]
            simp only [Function.comp_def, ih]
            cases hasTextKeys members with
            | false => exact Option.bind_fun_none _
            | true => rfl
          by_cases hsource : name = "source"
          · subst hsource
            rw [take?_source, Json.Value.under_cons_self, Json.Value.under_cons_of_ne (by decide),
              Json.Value.single?_cons, Option.bind_map]
            simp only [Function.comp_def, ih, Option.map_bind]
            cases hasTextKeys members with
            | false => exact Option.bind_fun_none _
            | true => exact Option.bind_comm _ _
          · have hkinds : some name ≠ some "cell_type" := mt Option.some.inj hkind
            have hsources : some name ≠ some "source" := mt Option.some.inj hsource
            rw [take?_other hkind hsource, Json.Value.under_cons_of_ne hkinds,
              Json.Value.under_cons_of_ne hsources, Option.bind_some, ih]

theorem toOption_finish (read : Gathered) :
    (record.finish read).toOption = read.kind.map fun kind => ⟨kind, read.source.getD []⟩ := by
  cases h : read.kind <;> simp [record, required, h] <;> rfl

theorem meaning?_eq (value : Value) : record.meaning? fieldMeaning value = ofValue? value := by
  have hfinish : ∀ read, (record.finish read).toOption = _ := toOption_finish
  cases value with
  | object members =>
      rw [Json.Record.meaning?, gather?_eq, ofValue?, ofMembers?]
      simp only [hfinish]
      cases hasTextKeys members with
      | false => rfl
      | true =>
          simp only [if_true, Option.bind_assoc, Option.bind_map]
          rfl
  | list values =>
      rw [Json.Record.meaning?]
      simp only [hfinish]
      rcases values with _ | ⟨kind, _ | ⟨source, _ | ⟨other, values⟩⟩⟩
      · rfl
      · cases h : kind.text? <;> simp [Json.Record.gatherListed?, record, fieldMeaning, ofValue?, h]
      · cases h : kind.text? <;> cases h' : source.list? text? <;>
          simp [Json.Record.gatherListed?, record, fieldMeaning, ofValue?, h, h']
      · simp [Json.Record.gatherListed?, record, fieldMeaning, ofValue?]
  | _ => rfl

theorem understands_reader : Json.Understands record.reader ofValue? := by
  rw [← funext meaning?_eq]
  exact Json.Record.understands_reader understood

end DocumentCell

/-! ## Documents -/

namespace Document

/-- The document that the members of an object mean. -/
def ofMembers? (members : List (Option String × Value)) : Option Document :=
  if hasTextKeys members then
    (single? (list? DocumentCell.ofValue?) none (under "cells" members)).bind fun cells =>
      cells.map Document.mk
  else none

/-- The document that a value means: an object, or a list of nothing but the cells. -/
def ofValue? : Value → Option Document
  | .object members => ofMembers? members
  | .list [cells] => (cells.list? DocumentCell.ofValue?).map Document.mk
  | _ => none

/-- What values mean as the field of a document. -/
def fieldMeaning : Json.Record.FieldMeaning (Option (List DocumentCell)) := fun _ _ value =>
  (value.list? DocumentCell.ofValue?).map some

theorem understood : Json.Record.Understood fieldMeaning record.fields := by
  intro field hfield read
  obtain rfl := List.mem_singleton.mp hfield
  exact DocumentCell.understands_reader.list.map some

theorem take?_cells (value : Value) (read : Option (List DocumentCell)) :
    Json.Record.take? fieldMeaning record.fields "cells" value read =
      (if read.isSome then none else value.list? DocumentCell.ofValue?).map some := by
  cases h : read <;> simp [Json.Record.take?, record, fieldMeaning]

theorem take?_other {name : String} (h : name ≠ "cells") (value : Value)
    (read : Option (List DocumentCell)) :
    Json.Record.take? fieldMeaning record.fields name value read = some read := by
  simp [Json.Record.take?, record, h.symm]

/-- What is gathered of a document goes by the values under its one key. -/
theorem gather?_eq (members : List (Option String × Value)) (read : Option (List DocumentCell)) :
    Json.Record.gather? fieldMeaning record.fields members read =
      if hasTextKeys members then
        single? (list? DocumentCell.ofValue?) read (under "cells" members)
      else none := by
  induction members generalizing read with
  | nil => simp [Json.Record.gather?, hasTextKeys]
  | cons member members ih =>
      obtain ⟨key, value⟩ := member
      cases key with
      | none => simp [Json.Record.gather?]
      | some name =>
          rw [Json.Record.gather?, Option.bind_some, Json.Value.hasTextKeys_cons,
            Option.isSome_some, Bool.true_and]
          by_cases hcells : name = "cells"
          · subst hcells
            rw [take?_cells, Json.Value.under_cons_self, Json.Value.single?_cons, Option.bind_map]
            simp only [Function.comp_def, ih]
            cases hasTextKeys members with
            | false => exact Option.bind_fun_none _
            | true => rfl
          · have hkey : some name ≠ some "cells" := mt Option.some.inj hcells
            rw [take?_other hcells, Json.Value.under_cons_of_ne hkey, Option.bind_some, ih]

theorem toOption_finish (read : Option (List DocumentCell)) :
    (record.finish read).toOption = read.map Document.mk := by
  cases read <;> rfl

theorem meaning?_eq (value : Value) : record.meaning? fieldMeaning value = ofValue? value := by
  have hfinish : ∀ read, (record.finish read).toOption = _ := toOption_finish
  cases value with
  | object members =>
      rw [Json.Record.meaning?, gather?_eq, ofValue?, ofMembers?]
      simp only [hfinish]
      cases hasTextKeys members with
      | false => rfl
      | true => rfl
  | list values =>
      rw [Json.Record.meaning?]
      simp only [hfinish]
      rcases values with _ | ⟨cells, _ | ⟨other, values⟩⟩
      · rfl
      · cases h : cells.list? DocumentCell.ofValue? <;>
          simp [Json.Record.gatherListed?, record, fieldMeaning, ofValue?, h]
      · simp [Json.Record.gatherListed?, record, fieldMeaning, ofValue?]
  | _ => rfl

theorem understands_reader : Json.Understands record.reader ofValue? := by
  rw [← funext meaning?_eq]
  exact Json.Record.understands_reader understood

/-- A text is decoded to the document that its value means. -/
theorem decode_eq_ok_iff {value : Value} {octets : Bytes} (htext : value.Text octets)
    {document : Document} : decode octets = .ok document ↔ ofValue? value = some document :=
  understands_reader.decode_eq_ok_iff htext

end Document

/-! ## Written documents -/

/-- The value of a list of texts. -/
def linesValue (lines : List String) : Value := .list (lines.map fun line => .string (some line))

namespace DocumentCell

/-- The value of a cell. -/
def toValue (cell : DocumentCell) : Value :=
  .object [(some "cell_type", .string (some cell.kind)), (some "source", linesValue cell.source)]

theorem form_toJson (cell : DocumentCell) : cell.toValue.Form (Text.encode cell.toJson) := by
  have hlines : (linesValue cell.source).Form
      (Text.encode (Json.writeList (cell.source.map Json.quote))) :=
    Json.form_writeList_map fun line _ => Json.form_quote line
  exact Json.form_writeObject
    (.cons ⟨rfl, Json.form_quote cell.kind⟩ (.cons ⟨rfl, hlines⟩ .nil))

theorem ofValue?_toValue (cell : DocumentCell) : ofValue? cell.toValue = some cell := by
  have hlines : (linesValue cell.source).list? text? = some cell.source :=
    Json.Value.list?_map fun line _ => rfl
  simp [toValue, ofValue?, ofMembers?, hasTextKeys, Json.Value.under_cons_of_ne, single?, text?,
    hlines]

end DocumentCell

namespace Document

/-- The value of a document. -/
def toValue (document : Document) : Value :=
  .object [(some "cells", .list (document.cells.map DocumentCell.toValue))]

theorem form_toJson (document : Document) :
    document.toValue.Form (Text.encode document.toJson) := by
  have hcells : (Value.list (document.cells.map DocumentCell.toValue)).Form
      (Text.encode (Json.writeList (document.cells.map DocumentCell.toJson))) :=
    Json.form_writeList_map fun cell _ => cell.form_toJson
  exact Json.form_writeObject (.cons ⟨rfl, hcells⟩ .nil)

theorem ofValue?_toValue (document : Document) : ofValue? document.toValue = some document := by
  have hcells : list? DocumentCell.ofValue? (.list (document.cells.map DocumentCell.toValue)) =
      some document.cells := Json.Value.list?_map fun cell _ => cell.ofValue?_toValue
  simp [toValue, ofValue?, ofMembers?, hasTextKeys, single?, hcells]

/-- A document is read back from what is written of it. -/
theorem decode_toJson (document : Document) : decode (Text.encode document.toJson) = .ok document :=
  (decode_eq_ok_iff (.of_form document.form_toJson)).mpr document.ofValue?_toValue

end Document

end Cellbook
