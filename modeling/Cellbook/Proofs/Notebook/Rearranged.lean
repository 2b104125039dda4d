import Cellbook.Proofs.Notebook.Name
import Cellbook.Proofs.Notebook.Stored
import Mathlib.Logic.Relation

/-!
# Rearranged notebooks

A stored notebook that something else has written may have the members of its objects in another
order, and members of which nothing is read.  It means the same (`Document.ofValue?_eqvGen`).  So it
is enough to know how a cell is read in one form, and to fill it into a document (`Document.Slot`).

With the round trip of documents and the reading of names this makes up what is read of stored
notebooks (`stored_readBack`).
-/

namespace Cellbook

open Json (Value)
open Json.Value (text? list? under single? hasTextKeys Reordered)

variable {members before after : List (Option String × Value)} {value other : Value}

/-! ## Cells -/

namespace DocumentCell

/-- A cell means the same with its members in another order. -/
theorem ofValue?_reordered (h : Reordered value other) : ofValue? value = ofValue? other := by
  have hlist ⦃value other : Value⦄ (h : Reordered value other) :
      value.list? text? = other.list? text? := h.list?_eq fun _ _ h => h.text?_eq
  cases value with
  | object members =>
      obtain ⟨others, rfl⟩ := h.exists_object
      rw [ofValue?, ofValue?, ofMembers?, ofMembers?, h.hasTextKeys_eq,
        h.single?_eq fun _ _ h => h.text?_eq, h.single?_eq hlist]
  | list elements =>
      cases h with
      | @element value other earlier later h =>
          -- The element is the kind or the source, or there are too many of them.
          rcases earlier with _ | ⟨kind, _ | ⟨source, _ | ⟨other, earlier⟩⟩⟩
          · rcases later with _ | ⟨source, _ | ⟨other, later⟩⟩
            · simp [ofValue?, h.text?_eq]
            · simp [ofValue?, h.text?_eq]
            · rfl
          · cases later with
            | nil => simp [ofValue?, hlist h]
            | cons other later => rfl
          · rfl
          · rfl
  | _ => cases h

/-- A member that names no field may be put anywhere in a cell. -/
theorem ofMembers?_insert {name : String} (hkind : name ≠ "cell_type") (hsource : name ≠ "source")
    (value : Value) :
    ofMembers? (before ++ (some name, value) :: after) = ofMembers? (before ++ after) := by
  have hkinds : some name ≠ some "cell_type" := mt Option.some.inj hkind
  have hsources : some name ≠ some "source" := mt Option.some.inj hsource
  simp [ofMembers?, Json.Value.under_cons_of_ne, hkinds, hsources]

/-- A cell without a source is one with a source that has no lines. -/
theorem ofMembers?_source (h : ∀ member ∈ members, member.1 ≠ some "source") :
    ofMembers? ((some "source", .list []) :: members) = ofMembers? members := by
  have hnone : under "source" members = [] := Json.Value.under_eq_nil h
  simp [ofMembers?, Json.Value.under_cons_of_ne, hnone, single?, list?]

/-- A cell without a source has no lines. -/
theorem source_eq_nil (h : ∀ member ∈ members, member.1 ≠ some "source") {cell : DocumentCell}
    (hcell : ofMembers? members = some cell) : cell.source = [] := by
  rw [ofMembers?, Json.Value.under_eq_nil h, Option.ite_none_right_eq_some] at hcell
  obtain ⟨kind, -, hread⟩ := Option.bind_eq_some_iff.mp hcell.2
  obtain ⟨kind, -, rfl⟩ := Option.map_eq_some_iff.mp hread
  rfl

end DocumentCell

/-! ## Documents -/

namespace Document

/-- A document without one of its cells: what stands around the cell. -/
inductive Slot where
  | object (before after : List (Option String × Value)) (earlier later : List Value)
  | list (earlier later : List Value)

namespace Slot

/-- The document with a cell. -/
def fill : Slot → Value → Value
  | object before after earlier later, cell =>
    .object (before ++ (some "cells", .list (earlier ++ cell :: later)) :: after)
  | list earlier later, cell => .list [.list (earlier ++ cell :: later)]

/-- The number of cells before the one that is left out. -/
def index : Slot → Nat
  | object _ _ earlier _ => earlier.length
  | list earlier _ => earlier.length

/-- A cell counts only for what it means. -/
theorem ofValue?_congr (slot : Slot)
    (h : DocumentCell.ofValue? value = DocumentCell.ofValue? other) :
    ofValue? (slot.fill value) = ofValue? (slot.fill other) := by
  cases slot with
  | object before after earlier later =>
      have hcells := Json.Value.single?_congr (Json.Value.list?_congr h earlier later) none
        (under "cells" before) (under "cells" after)
      simp [fill, ofValue?, ofMembers?, hcells]
  | list earlier later => simp [fill, ofValue?, Json.Value.list?_congr h]

/-- The cell is one of the document's, in its place. -/
theorem exists_cell {slot : Slot} {document : Document}
    (h : ofValue? (slot.fill value) = some document) :
    ∃ cell, DocumentCell.ofValue? value = some cell ∧ document.cells[slot.index]? = some cell := by
  cases slot with
  | object before after earlier later =>
      rw [fill, ofValue?, ofMembers?, Json.Value.under_append, Json.Value.under_cons_self,
        Option.ite_none_right_eq_some] at h
      obtain ⟨read, hread, hdocument⟩ := Option.bind_eq_some_iff.mp h.2
      obtain ⟨cells, hcells, rfl⟩ := Json.Value.single?_eq_some hread
      obtain rfl := Option.some.inj hdocument
      exact Json.Value.list?_eq_some hcells
  | list earlier later =>
      obtain ⟨cells, hcells, rfl⟩ := Option.map_eq_some_iff.mp h
      exact Json.Value.list?_eq_some hcells

end Slot

/-- The values are the same but for the order of members, or for a member of a document or of a cell
that names none of its fields. -/
inductive Alike : Value → Value → Prop
  | reordered {value other : Value} (h : Reordered value other) : Alike value other
  | member (before after : List (Option String × Value)) {name : String} (h : name ≠ "cells")
      (value : Value) :
      Alike (.object (before ++ after)) (.object (before ++ (some name, value) :: after))
  | cellMember (slot : Slot) (before after : List (Option String × Value)) {name : String}
      (hkind : name ≠ "cell_type") (hsource : name ≠ "source") (value : Value) :
      Alike (slot.fill (.object (before ++ after)))
        (slot.fill (.object (before ++ (some name, value) :: after)))

/-- A document means the same with the members of its objects in another order. -/
theorem ofValue?_reordered (h : Reordered value other) : ofValue? value = ofValue? other := by
  have hlist ⦃value other : Value⦄ (h : Reordered value other) :
      value.list? DocumentCell.ofValue? = other.list? DocumentCell.ofValue? :=
    h.list?_eq fun _ _ h => DocumentCell.ofValue?_reordered h
  cases value with
  | object members =>
      obtain ⟨others, rfl⟩ := h.exists_object
      rw [ofValue?, ofValue?, ofMembers?, ofMembers?, h.hasTextKeys_eq, h.single?_eq hlist]
  | list elements =>
      cases h with
      | @element value other earlier later h =>
          -- The element is the cells, or there is another one.
          rcases earlier with _ | ⟨other, _ | ⟨another, earlier⟩⟩
          · cases later with
            | nil => simp [ofValue?, hlist h]
            | cons other later => rfl
          · rfl
          · rfl
  | _ => cases h

theorem ofValue?_alike (h : Alike value other) : ofValue? value = ofValue? other := by
  cases h with
  | reordered h => exact ofValue?_reordered h
  | @member before after name h value =>
      have hkey : some name ≠ some "cells" := mt Option.some.inj h
      simp [ofValue?, ofMembers?, Json.Value.under_cons_of_ne hkey]
  | cellMember slot before after hkind hsource value =>
      exact slot.ofValue?_congr (DocumentCell.ofMembers?_insert hkind hsource value).symm

/-- A document means the same however it is rearranged. -/
theorem ofValue?_eqvGen (h : Relation.EqvGen Alike value other) :
    ofValue? value = ofValue? other := by
  induction h with
  | rel value other h => exact ofValue?_alike h
  | refl value => rfl
  | symm value other _ ih => exact ih.symm
  | trans value middle other _ _ ih₁ ih₂ => exact ih₁.trans ih₂

/-- Texts of values that mean the same are decoded to the same document. -/
theorem decode_iff_of_ofValue?_eq {octets others : Bytes} (hoctets : value.Text octets)
    (hothers : other.Text others) (h : ofValue? value = ofValue? other) (document : Document) :
    decode octets = .ok document ↔ decode others = .ok document := by
  rw [decode_eq_ok_iff hoctets, decode_eq_ok_iff hothers, h]

namespace Slot

variable {slot : Slot} {octets others : Bytes}

/-- A cell may be written without a source instead of with one that has no lines. -/
theorem decode_iff_source (hmembers : ∀ member ∈ members, member.1 ≠ some "source")
    (hoctets : (slot.fill (.object members)).Text octets)
    (hothers : (slot.fill (.object ((some "source", .list []) :: members))).Text others)
    (document : Document) : decode octets = .ok document ↔ decode others = .ok document := by
  have hcell : DocumentCell.ofValue? (.object members) =
      DocumentCell.ofValue? (.object ((some "source", .list []) :: members)) :=
    (DocumentCell.ofMembers?_source hmembers).symm
  exact decode_iff_of_ofValue?_eq hoctets hothers (slot.ofValue?_congr hcell) document

/-- The lines of a cell that was written without a source. -/
theorem source_of_decode (hmembers : ∀ member ∈ members, member.1 ≠ some "source")
    (hoctets : (slot.fill (.object members)).Text octets) {document : Document}
    (hdocument : decode octets = .ok document) :
    (document.cells[slot.index]?).map DocumentCell.source = some [] := by
  obtain ⟨cell, hcell, hplace⟩ := exists_cell ((decode_eq_ok_iff hoctets).mp hdocument)
  rw [hplace, Option.map_some, DocumentCell.source_eq_nil hmembers hcell]

end Slot

end Document

/-! ## Names -/

/-- A name ends as a notebook's does just if there is something, or nothing, before the ending. -/
theorem hasNotebookSuffix_iff {name : String} :
    hasNotebookSuffix name = true ↔ ∃ stem, name = stem ++ notebookSuffix := by
  rw [hasNotebookSuffix, List.isSuffixOf_iff_suffix]
  constructor
  · rintro ⟨stem, hstem⟩
    refine ⟨String.ofList stem, String.toList_inj.mp ?_⟩
    rw [String.toList_append, String.toList_ofList, hstem]
  · rintro ⟨stem, rfl⟩
    exact ⟨stem.toList, String.toList_append.symm⟩

namespace NotebookId

theorem understands_reader : Json.Understands reader fun value => value.text?.bind ofName? := by
  refine Json.understands_text.bind fun name rest => ?_
  cases ofName? name with
  | none => exact Json.reads_refuse _ _
  | some id => exact Json.reads_pure _ _

/-- A text of a string is decoded to the name that the string is. -/
theorem decode_eq_ok_iff {name : String} {octets : Bytes}
    (h : (Value.string (some name)).Text octets) {id : NotebookId} :
    decode octets = .ok id ↔ id.name = name := by
  have hdecode : decode octets = .ok id ↔ ofName? name = some id :=
    understands_reader.decode_eq_ok_iff h
  rw [hdecode]
  constructor
  · exact name_of_ofName?
  · rintro rfl
    exact ofName?_eq_some id.hasSuffix

/-- A text of a string is decoded to a name just if the string ends as a notebook's name does. -/
theorem exists_decode_iff {name : String} {octets : Bytes}
    (h : (Value.string (some name)).Text octets) :
    (∃ id, decode octets = .ok id) ↔ ∃ stem, name = stem ++ notebookSuffix := by
  simp only [decode_eq_ok_iff h]
  rw [← hasNotebookSuffix_iff]
  constructor
  · rintro ⟨id, rfl⟩
    exact id.hasSuffix
  · exact fun hsuffix => ⟨⟨name, hsuffix⟩, rfl⟩

end NotebookId

/-! ## Stored notebooks -/

/-- What is stored is read back.  A document is decoded from its written form.  It makes no
difference in which order the members of an object stand, nor whether there are others than a
document or a cell has; a cell without a source has no lines; and whatever was decoded is decoded
again from its written form.  A string is decoded to a name just if it ends as a notebook's does; it
is then the name, and its own written form is that of the name. -/
theorem stored_readBack :
    (∀ document : Document, document.toValue.Text (Text.encode document.toJson) ∧
      Document.decode (Text.encode document.toJson) = .ok document) ∧
    (∀ value other octets others, Relation.EqvGen Document.Alike value other →
      value.Text octets → other.Text others → ∀ document,
        Document.decode octets = .ok document ↔ Document.decode others = .ok document) ∧
    (∀ (slot : Document.Slot) members octets, (∀ member ∈ members, member.1 ≠ some "source") →
      (slot.fill (.object members)).Text octets →
        (∀ others, (slot.fill (.object ((some "source", .list []) :: members))).Text others →
          ∀ document, Document.decode octets = .ok document ↔
            Document.decode others = .ok document) ∧
        ∀ document, Document.decode octets = .ok document →
          (document.cells[slot.index]?).map DocumentCell.source = some []) ∧
    (∀ octets document, Document.decode octets = .ok document →
      Document.decode (Text.encode document.toJson) = .ok document) ∧
    ∀ name : String, (Value.string (some name)).Text (Text.encode (Json.quote name)) ∧
      ∀ octets, (Value.string (some name)).Text octets →
        ((∃ id, NotebookId.decode octets = .ok id) ↔ ∃ stem, name = stem ++ notebookSuffix) ∧
        ∀ id, NotebookId.decode octets = .ok id → id.name = name ∧ id.toJson = Json.quote name := by
  refine ⟨fun document => ⟨.of_form document.form_toJson, document.decode_toJson⟩, ?_, ?_,
    fun _ document _ => document.decode_toJson, fun name => ⟨.of_form (Json.form_quote name), ?_⟩⟩
  · intro value other octets others halike hoctets hothers
    exact Document.decode_iff_of_ofValue?_eq hoctets hothers (Document.ofValue?_eqvGen halike)
  · intro slot members octets hmembers hoctets
    constructor
    · intro others hothers
      exact Document.Slot.decode_iff_source hmembers hoctets hothers
    · intro document hdocument
      exact Document.Slot.source_of_decode hmembers hoctets hdocument
  · intro octets hoctets
    refine ⟨NotebookId.exists_decode_iff hoctets, fun id hid => ?_⟩
    obtain rfl := (NotebookId.decode_eq_ok_iff hoctets).mp hid
    exact ⟨rfl, rfl⟩

/-- A member of the document that it does not know stands before the cells, and the only cell has no
source. -/
theorem stored_readBack_rearranged :
    let cell := Json.writeObject [("cell_type", Json.quote "\"😀\u0001")]
    let stored := Json.writeObject
      [("format", Json.writeList [Json.writeList ["null"]]), ("cells", Json.writeList [cell])]
    let document : Document := ⟨[⟨"\"😀\u0001", []⟩]⟩
    Document.decode (Text.encode stored) = .ok document ∧
      Document.decode (Text.encode document.toJson) = .ok document ∧
      ∃ id, NotebookId.decode (Text.encode (Json.quote "\n.unb")) = .ok id ∧
        id.name = "\n.unb" ∧ id.toJson = Json.quote "\n.unb" := by
  intro cell stored document
  obtain ⟨hwritten, hsame, hsource, hagain, hname⟩ := stored_readBack
  let kind : Option String × Value := (some "cell_type", .string (some "\"😀\u0001"))
  let source : Option String × Value := (some "source", .list [])
  let format : Option String × Value := (some "format", .list [.list [.null]])
  let slot := Document.Slot.object [format] [] [] []
  let full := Json.writeObject [("format", Json.writeList [Json.writeList ["null"]]),
    ("cells", Json.writeList [Json.writeObject
      [("source", Json.writeList []), ("cell_type", Json.quote "\"😀\u0001")]])]
  have hkind : ∀ member ∈ [kind], member.1 ≠ some "source" := by simp [kind]
  have hformat : format.2.Form (Text.encode (Json.writeList [Json.writeList ["null"]])) :=
    Json.form_writeList (.cons (Json.form_writeList (.cons rfl .nil)) .nil)
  have hquote := Json.form_quote "\"😀\u0001"
  have hstored : (slot.fill (.object [kind])).Form (Text.encode stored) :=
    Json.form_writeObject (.cons ⟨rfl, hformat⟩ (.cons ⟨rfl, Json.form_writeList
      (.cons (Json.form_writeObject (.cons ⟨rfl, hquote⟩ .nil)) .nil)⟩ .nil))
  have hfull : (slot.fill (.object [source, kind])).Form (Text.encode full) :=
    Json.form_writeObject (.cons ⟨rfl, hformat⟩ (.cons ⟨rfl, Json.form_writeList
      (.cons (Json.form_writeObject (.cons ⟨rfl, Json.form_writeList .nil⟩
        (.cons ⟨rfl, hquote⟩ .nil))) .nil)⟩ .nil))
  -- The source is put behind the kind, and the member that is not known is taken away.
  have halike : Relation.EqvGen Document.Alike (slot.fill (.object [source, kind]))
      document.toValue :=
    .trans _ _ _
      (.rel _ _ (.reordered (.member [format] [] _ (.element [] [] (.order (.swap _ _ _))))))
      (.symm _ _ (.rel _ _ (.member [] _ (by decide) _)))
  have hdocument : Document.decode (Text.encode stored) = .ok document := by
    rw [(hsource slot [kind] _ hkind (.of_form hstored)).1 _ (.of_form hfull),
      hsame _ _ _ _ halike (.of_form hfull) (hwritten document).1]
    exact (hwritten document).2
  obtain ⟨hquoted, hname⟩ := hname "\n.unb"
  obtain ⟨⟨id, hid⟩, hkept⟩ := (hname _ hquoted).imp_left fun h => h.mpr ⟨"\n", rfl⟩
  exact ⟨hdocument, hagain _ _ hdocument, id, hid, hkept id hid⟩

end Cellbook
