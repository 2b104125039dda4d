import Cellbook.Proofs.Engine.Generations
import Cellbook.Proofs.Json.Meaning
import Cellbook.Proofs.Server.Listing
import Cellbook.Proofs.Text.Order
import Mathlib.Data.List.Sort

/-!
# What a listing shows

A listing that nothing comes in between shows each document that there is, once, by ascending names,
with its size and whether the notebook of exactly that name is in use (`Exact`).  It is a list in
JSON, and is read back as the entries it was written from (`decode_entries`).

Nothing else shows: two stores that hold the same documents are listed alike, in whatever order they
give their names (`Service.listed_exactly`).
-/

namespace Cellbook

open Json (Value)

namespace Server

/-! ## Entries read back -/

namespace FileEntry

variable (entry : FileEntry)

/-- What values mean as the fields of an entry. -/
def fieldMeaning : Json.Record.FieldMeaning Gathered := fun field read value =>
  if field.name = "fn" then value.text?.map fun name => { read with name := some name }
  else if field.name = "running" then
    value.boolean?.map fun running => { read with running := some running }
  else value.count?.map fun size => { read with size := some size }

theorem understood : Json.Record.Understood fieldMeaning record.fields := by
  intro field hfield read
  simp only [record, List.mem_cons, List.not_mem_nil, or_false] at hfield
  rcases hfield with rfl | rfl | rfl
  · exact Json.understands_text.map _
  · exact Json.understands_boolean.map _
  · exact Json.understands_count.map _

/-- The members of an entry: its name, whether it is running, and the digits of its size. -/
def toMembers : List (Option String × Value) :=
  [(some "fn", .string (some entry.name)), (some "running", .boolean entry.running),
    (some "size", .number ⟨false, Json.digitOctets entry.size, none, none⟩)]

/-- The value of an entry. -/
def toValue : Value := .object entry.toMembers

theorem form_toJson : entry.toValue.Form (Text.encode entry.toJson) :=
  Json.form_writeObject (.cons ⟨rfl, Json.form_quote entry.name⟩
    (.cons ⟨rfl, rfl⟩ (.cons ⟨rfl, Json.form_toString entry.size⟩ .nil)))

/-- All that there is to an entry is gathered of its members, if its size fits 64 bits. -/
theorem gather?_toMembers (h : entry.size ≤ Json.maxNatural) :
    Json.Record.gather? fieldMeaning record.fields entry.toMembers record.start =
      some ⟨some entry.name, some entry.running, some entry.size⟩ := by
  have hsize : (Value.number ⟨false, Json.digitOctets entry.size, none, none⟩).count? =
      some entry.size := by
    rw [Value.count?, Json.value_digitOctets h]
    rfl
  simp [toMembers, Json.Record.gather?, Json.Record.take?, record, fieldMeaning, Value.text?,
    Value.boolean?, hsize]

theorem meaning?_toValue (h : entry.size ≤ Json.maxNatural) :
    record.meaning? fieldMeaning entry.toValue = some entry := by
  rw [toValue, Json.Record.meaning?, entry.gather?_toMembers h]
  rfl

end FileEntry

/-- Written entries are read as the entries. -/
theorem decode_entries {entries : List FileEntry}
    (h : ∀ entry ∈ entries, entry.size ≤ Json.maxNatural) :
    Json.decode (Json.list FileEntry.record.reader)
      (Text.encode (Json.writeList (entries.map FileEntry.toJson))) = .ok entries := by
  have hform : (Value.list (entries.map FileEntry.toValue)).Form
      (Text.encode (Json.writeList (entries.map FileEntry.toJson))) :=
    Json.form_writeList_map fun entry _ => entry.form_toJson
  have hreader := (Json.Record.understands_reader FileEntry.understood).list
  refine (hreader.decode_eq_ok_iff (.of_form hform)).mpr (Value.list?_map fun entry hentry => ?_)
  exact entry.meaning?_toValue (h entry hentry)

/-! ## Documents -/

variable {ε ν σ τ : Type}

/-- A store holds files: it lists the name of each once, in any order, and knows the content and the
size of each document. -/
structure Holds [FileStore σ] (store : σ) (files : String → Option Bytes) : Prop where
  list : ∃ names, FileStore.list store = .ok names ∧ names.Nodup ∧
    ∀ name, name ∈ names ↔ (files name).isSome = true
  read : ∀ {name content}, hasNotebookSuffix name = true → files name = some content →
    FileStore.read store name = .ok content
  size : ∀ {name content}, hasNotebookSuffix name = true → files name = some content →
    FileStore.size store name = .ok content.length

/-- A store in memory holds its files, and those of any that has the same in another order. -/
theorem holds_memory {documents store : MemoryStore}
    (hfiles : store.files.Perm documents.files) : Holds store documents.get? := by
  have hnames : store.names.Perm documents.names := hfiles.map Prod.fst
  have hget {name : String} {content : Bytes} (hcontent : documents.get? name = some content) :
      store.get? name = some content := by
    rw [MemoryStore.get?_eq_some_iff, hfiles.mem_iff]
    exact MemoryStore.get?_eq_some_iff.mp hcontent
  constructor
  · exact ⟨store.names, rfl, store.nodup, fun name =>
      hnames.mem_iff.trans (documents.isSome_get?_iff name).symm⟩
  · intro name content _ hcontent
    change MemoryStore.found name (store.get? name) = _
    rw [hget hcontent]
    rfl
  · intro name content _ hcontent
    change MemoryStore.found name ((store.get? name).map List.length) = _
    rw [hget hcontent]
    rfl

/-! ## Entries -/

/-- The entries of the documents among files, strictly by the octets of their names: of each its
size, and whether the registry holds exactly its name. -/
structure Exact (registry : Registry ε) (files : String → Option Bytes)
    (entries : List FileEntry) : Prop where
  ascending : entries.Pairwise fun a b => Text.encode a.name < Text.encode b.name
  mem_iff : ∀ entry, entry ∈ entries ↔ hasNotebookSuffix entry.name = true ∧
    (entry.running = true ↔ entry.name ∈ registry.live.map fun live => live.1.name) ∧
    ∃ content, files entry.name = some content ∧ entry.size = content.length

/-- There is only one way to list files. -/
theorem Exact.eq {registry : Registry ε} {files : String → Option Bytes}
    {entries others : List FileEntry} (h : Exact registry files entries)
    (hothers : Exact registry files others) : entries = others := by
  have hirrefl : Std.Irrefl fun a b : FileEntry => Text.encode a.name < Text.encode b.name :=
    ⟨fun entry => List.lt_irrefl _⟩
  have hantisymm : Std.Antisymm fun a b : FileEntry => Text.encode a.name < Text.encode b.name :=
    ⟨fun _ _ hless hgreater => absurd hgreater (List.lt_asymm hless)⟩
  exact h.ascending.eq_of_mem_iff hothers.ascending fun entry =>
    (h.mem_iff entry).trans (hothers.mem_iff entry).symm

/-- Of files of the same names the same names and flags are shown. -/
theorem Exact.shown_eq {registry : Registry ε} {files others : String → Option Bytes}
    (hsame : ∀ name, (others name).isSome = (files name).isSome) {entries shown : List FileEntry}
    (h : Exact registry files entries) (hshown : Exact registry others shown) :
    (shown.map fun entry => (entry.name, entry.running)) =
      entries.map fun entry => (entry.name, entry.running) := by
  -- What is shown of either but for the sizes.
  have hmem {files : String → Option Bytes} {entries : List FileEntry}
      (h : Exact registry files entries) (shown : String × Bool) :
      (shown ∈ entries.map fun entry => (entry.name, entry.running)) ↔
        hasNotebookSuffix shown.1 = true ∧
        (shown.2 = true ↔ shown.1 ∈ registry.live.map fun live => live.1.name) ∧
        (files shown.1).isSome = true := by
    rw [List.mem_map]
    constructor
    · rintro ⟨entry, hentry, rfl⟩
      obtain ⟨hsuffix, hrunning, content, hcontent, -⟩ := (h.mem_iff entry).mp hentry
      exact ⟨hsuffix, hrunning, by rw [hcontent]; rfl⟩
    · rintro ⟨hsuffix, hrunning, hsome⟩
      obtain ⟨content, hcontent⟩ := Option.isSome_iff_exists.mp hsome
      exact ⟨⟨shown.1, shown.2, content.length⟩,
        (h.mem_iff _).mpr ⟨hsuffix, hrunning, content, hcontent, rfl⟩, rfl⟩
  have hirrefl : Std.Irrefl fun a b : String × Bool => Text.encode a.1 < Text.encode b.1 :=
    ⟨fun shown => List.lt_irrefl _⟩
  have hantisymm : Std.Antisymm fun a b : String × Bool => Text.encode a.1 < Text.encode b.1 :=
    ⟨fun _ _ hless hgreater => absurd hgreater (List.lt_asymm hless)⟩
  have hascending {files : String → Option Bytes} {entries : List FileEntry}
      (h : Exact registry files entries) :
      (entries.map fun entry => (entry.name, entry.running)).Pairwise
        fun a b => Text.encode a.1 < Text.encode b.1 := List.pairwise_map.mpr h.ascending
  refine (hascending hshown).eq_of_mem_iff (hascending h) fun pair => ?_
  rw [hmem hshown, hmem h, hsame]

namespace Service

variable [FileStore σ] (service : Service ε ν σ τ) {files : String → Option Bytes}

/-- What a store holds is listed exactly. -/
theorem entries_exact (h : Holds service.store files) :
    ∃ entries, service.entries = .ok entries ∧ Exact service.engine.registry files entries := by
  obtain ⟨names, hlist, hnodup, hnames⟩ := h.list
  have hsize : ∀ name ∈ names, hasNotebookSuffix name = true →
      FileStore.size service.store name = .ok ((files name).getD []).length := by
    intro name hname hsuffix
    obtain ⟨content, hcontent⟩ := Option.isSome_iff_exists.mp ((hnames name).mp hname)
    rw [h.size hsuffix hcontent, hcontent]
    rfl
  have hentries := service.entries_of_list hlist hsize
  obtain ⟨entries, hsame, hmem⟩ := service.entries_eq hlist hsize
  refine ⟨entries, hsame, ?_, fun entry => ?_⟩
  · obtain rfl := Except.ok.inj (hsame.symm.trans hentries)
    refine (Listing.pairwise_byName ?_).imp fun hless => (Text.encode_lt_encode_iff _ _).mpr hless
    rw [List.map_map]
    exact (List.map_id _).symm ▸ hnodup.filter _
  · rw [hmem]
    constructor
    · rintro ⟨name, hname, hsuffix, rfl⟩
      obtain ⟨content, hcontent⟩ := Option.isSome_iff_exists.mp ((hnames name).mp hname)
      refine ⟨hsuffix, Registry.contains_iff_mem, content, hcontent, ?_⟩
      dsimp only
      rw [hcontent]
      rfl
    · rintro ⟨hsuffix, hrunning, content, hcontent, hlength⟩
      refine ⟨entry.name, (hnames _).mpr (by rw [hcontent]; rfl), hsuffix, ?_⟩
      have hflag : entry.running = service.engine.isRunning entry.name :=
        Bool.eq_iff_iff.mpr (hrunning.trans Registry.contains_iff_mem.symm)
      rw [← hflag, hcontent, Option.getD_some, ← hlength]

variable [Represent ν] [FileStore τ]

/-- A request for the listing changes nothing and is answered with entries: a JSON list, which is
read back as the entries where their sizes fit 64 bits. -/
structure Answers (request : Http.Request) (entries : List FileEntry) : Prop where
  unchanged : (service.handle request).1 = service
  status : (service.handle request).2.status = 200
  contentType : ("content-type", "application/json") ∈ (service.handle request).2.headers
  body : ∃ octets, (service.handle request).2.body = .whole octets ∧
    octets = Text.encode (Json.writeList (entries.map FileEntry.toJson)) ∧
    ((∀ entry ∈ entries, entry.size ≤ Json.maxNatural) →
      Json.decode (Json.list FileEntry.record.reader) octets = .ok entries)

theorem answers_of_entries {request : Http.Request} (h : IsListing request)
    {entries : List FileEntry} (hentries : service.entries = .ok entries) :
    service.Answers request entries := by
  have hanswer : service.handle request = (service, listed entries) :=
    service.handle_listing h hentries
  constructor
  · rw [hanswer]
  · rw [hanswer]
    rfl
  · rw [hanswer]
    exact List.mem_cons_self
  · rw [hanswer]
    exact ⟨_, rfl, rfl, decode_entries⟩

/-- A listing is exact.  It shows each document of a store in memory once, and nothing else, by
ascending names; and so it does for any store that lists the same names once each, which is answered
alike if it holds the same. -/
theorem listed_exactly (documents : MemoryStore) (engine : Engine ε ν) (assets : τ)
    {request : Http.Request} (hrequest : IsListing request) :
    ∃ entries, Exact engine.registry documents.get? entries ∧
      (⟨engine, documents, assets⟩ : Service ε ν MemoryStore τ).Answers request entries ∧
      ∀ {σ : Type} [FileStore σ] (store : σ) (files : String → Option Bytes),
        Holds store files → (∀ name, (files name).isSome = (documents.get? name).isSome) →
          ∃ others, Exact engine.registry files others ∧
            (⟨engine, store, assets⟩ : Service ε ν σ τ).Answers request others ∧
            ((others.map fun entry => (entry.name, entry.running)) =
              entries.map fun entry => (entry.name, entry.running)) ∧
            ((∀ name, files name = documents.get? name) →
              ((⟨engine, store, assets⟩ : Service ε ν σ τ).handle request).2 =
                ((⟨engine, documents, assets⟩ : Service ε ν MemoryStore τ).handle request).2) := by
  let service : Service ε ν MemoryStore τ := ⟨engine, documents, assets⟩
  obtain ⟨entries, hentries, hexact⟩ := service.entries_exact (holds_memory (.refl _))
  refine ⟨entries, hexact, service.answers_of_entries hrequest hentries, ?_⟩
  intro σ _ store files hholds hsame
  let other : Service ε ν σ τ := ⟨engine, store, assets⟩
  obtain ⟨others, hothers, hshown⟩ := other.entries_exact hholds
  refine ⟨others, hshown, other.answers_of_entries hrequest hothers, hexact.shown_eq hsame hshown,
    fun hfiles => ?_⟩
  obtain rfl : files = documents.get? := funext hfiles
  obtain rfl : others = entries := hshown.eq hexact
  change (other.handle request).2 = (service.handle request).2
  rw [other.handle_listing hrequest hothers, service.handle_listing hrequest hentries]

/-- Two documents, of which one is running, and a file that is no document; and a store that lists
them the other way round. -/
theorem listed_exactly_reversed :
    let engine : Engine Nat String :=
      { Engine.new Evaluator.echo with
        registry := ⟨[(⟨"b.unb", by decide⟩, ⟨0⟩)], [0], by decide, by decide, by decide⟩ }
    let documents : MemoryStore :=
      ⟨[("b.unb", [1, 2]), ("notes.txt", [3]), ("a.unb", [])], by decide⟩
    let reversed : MemoryStore := ⟨documents.files.reverse, by decide⟩
    let request : Http.Request := ⟨"GET", Text.encode "/_files", [], []⟩
    IsListing request ∧ Holds reversed documents.get? ∧
      ((⟨engine, documents, .empty⟩ : Service Nat String MemoryStore MemoryStore).handle
        request).2.body = .whole (Text.encode
          ("[\x7b\"fn\":\"a.unb\",\"running\":false,\"size\":0\x7d," ++
            "\x7b\"fn\":\"b.unb\",\"running\":true,\"size\":2\x7d]")) ∧
      ((⟨engine, reversed, .empty⟩ : Service Nat String MemoryStore MemoryStore).handle request).2 =
        ((⟨engine, documents, .empty⟩ : Service Nat String MemoryStore MemoryStore).handle
          request).2 := by
  intro engine documents reversed request
  have hrequest : IsListing request := ⟨rfl, by decide⟩
  have hholds : Holds reversed documents.get? := holds_memory (List.reverse_perm _)
  obtain ⟨entries, hexact, hanswers, hothers⟩ :=
    listed_exactly documents engine MemoryStore.empty hrequest
  obtain ⟨others, -, -, -, hsame⟩ := hothers reversed documents.get? hholds fun name => rfl
  have hentries : Exact engine.registry documents.get?
      [⟨"a.unb", false, 0⟩, ⟨"b.unb", true, 2⟩] := by
    refine ⟨by decide, fun entry => ?_⟩
    constructor
    · intro hentry
      rcases List.mem_pair.mp hentry with rfl | rfl
      · exact ⟨by decide, by decide, [], by decide⟩
      · exact ⟨by decide, by decide, [1, 2], by decide⟩
    · rcases entry with ⟨name, running, size⟩
      rintro ⟨hsuffix, hrunning, content, hcontent, hsize⟩
      have hfile := MemoryStore.get?_eq_some_iff.mp hcontent
      simp only [documents, List.mem_cons, Prod.mk.injEq, List.not_mem_nil, or_false] at hfile
      dsimp only at hsuffix hrunning hsize
      subst hsize
      rcases hfile with ⟨rfl, rfl⟩ | ⟨rfl, -⟩ | ⟨rfl, rfl⟩
      · obtain rfl : running = true := hrunning.mpr List.mem_cons_self
        exact List.mem_cons_of_mem _ List.mem_cons_self
      · cases hsuffix
      · obtain rfl : running = false :=
          Bool.eq_false_iff.mpr fun hflag => absurd (hrunning.mp hflag) (by decide)
        exact List.mem_cons_self
  obtain ⟨octets, hbody, hoctets, -⟩ := hanswers.body
  refine ⟨hrequest, hholds, ?_, hsame fun name => rfl⟩
  rw [hbody, hoctets, hexact.eq hentries]
  rfl

end Service

end Server

end Cellbook
