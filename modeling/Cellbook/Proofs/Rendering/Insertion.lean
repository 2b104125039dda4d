import Cellbook.Proofs.Rendering.ReadBack
import Cellbook.Script.Library.Rich
import Mathlib.Data.Finset.Card
import Mathlib.Data.String.Basic

/-!
# Bundles by what was inserted

Whatever is inserted into a bundle, and however often, it keeps one entry for each mime type, where
the mime type was first inserted and with the payload that was inserted last (`Bundle.Ordered`).
Insertions under mime types that are there commute.

The bundle that a script makes of a map has the entries of the map, in the order of their keys.
-/

namespace Cellbook

namespace Bundle

/-! ## All insertions -/

/-- Inserts payloads under mime types, in order. -/
def insertAll (bundle : Bundle) (inserts : List (String × Payload)) : Bundle :=
  inserts.foldl (fun bundle insert => bundle.insert insert.1 insert.2) bundle

/-- A bundle is what these insertions make of the empty one: a map in the order of first
insertion. -/
structure Ordered (bundle : Bundle) (inserts : List (String × Payload)) : Prop where
  /-- There is one entry for each mime type, in the order of first insertion. -/
  mimes : bundle.entries.map Prod.fst = (inserts.map Prod.fst).eraseDups
  nodup : (bundle.entries.map Prod.fst).Nodup
  /-- Each entry has the payload of the last insertion. -/
  last : ∀ entry ∈ bundle.entries, inserts.reverse.lookup entry.1 = some entry.2
  get?_eq : ∀ mime, bundle.get? mime = inserts.reverse.lookup mime
  get?_eq_none_iff : ∀ mime, bundle.get? mime = none ↔ mime ∉ inserts.map Prod.fst
  size_eq : bundle.size = (inserts.map Prod.fst).toFinset.card

theorem mimes_insertAll (inserts : List (String × Payload)) :
    (empty.insertAll inserts).entries.map Prod.fst = (inserts.map Prod.fst).eraseDups := by
  induction inserts using List.reverseRecOn with
  | nil => rfl
  | append_singleton inserts insert ih =>
      rw [insertAll, List.foldl_concat, List.map_append, List.eraseDups_append, ← ih]
      change Keyed.keys (Keyed.set insert.1 insert.2 (empty.insertAll inserts).entries) = _
      have hmem : insert.1 ∈ (empty.insertAll inserts).entries.map Prod.fst ↔
          insert.1 ∈ inserts.map Prod.fst := by
        rw [ih, List.mem_eraseDups]
      rcases Keyed.keys_set insert.1 insert.2 (empty.insertAll inserts).entries with
        ⟨hthere, hkeys⟩ | ⟨hmissing, hkeys⟩
      · have hnone : [insert.1].removeAll (inserts.map Prod.fst) = [] := by
          simp [List.removeAll, hmem.mp hthere]
        rw [hkeys, List.map_singleton, hnone, List.eraseDups_nil, List.append_nil]
      · have hone : [insert.1].removeAll (inserts.map Prod.fst) = [insert.1] := by
          simp [List.removeAll, mt hmem.mpr hmissing]
        rw [hkeys, List.map_singleton, hone]
        rfl

theorem get?_insertAll (inserts : List (String × Payload)) (mime : String) :
    (empty.insertAll inserts).get? mime = inserts.reverse.lookup mime := by
  induction inserts using List.reverseRecOn with
  | nil => rfl
  | append_singleton inserts insert ih =>
      rw [insertAll, List.foldl_concat, List.reverse_concat, Keyed.lookup_cons, ← ih]
      exact Keyed.lookup_set insert.1 insert.2 _ mime

theorem Built.insertAll {bundle : Bundle} (h : bundle.Built) (inserts : List (String × Payload)) :
    (bundle.insertAll inserts).Built := by
  induction inserts generalizing bundle with
  | nil => exact h
  | cons insert inserts ih => exact ih (.insert insert.1 insert.2 h)

theorem nodup_insertAll (inserts : List (String × Payload)) :
    ((empty.insertAll inserts).entries.map Prod.fst).Nodup := by
  cases inserts with
  | nil => exact List.nodup_nil
  | cons insert inserts => exact ((Built.single insert.1 insert.2).insertAll inserts).nodup

theorem ordered_insertAll (inserts : List (String × Payload)) :
    (empty.insertAll inserts).Ordered inserts where
  mimes := mimes_insertAll inserts
  nodup := nodup_insertAll inserts
  last entry hentry := by
    rw [← get?_insertAll]
    exact (Keyed.lookup_eq_some_iff (nodup_insertAll inserts)).mpr hentry
  get?_eq := get?_insertAll inserts
  get?_eq_none_iff mime := by
    rw [get?_insertAll, List.lookup_eq_none_iff, List.mem_map]
    simp only [List.mem_reverse, bne_iff_ne]
    constructor
    · rintro h ⟨insert, hinsert, rfl⟩
      exact h insert hinsert rfl
    · rintro h insert hinsert rfl
      exact h ⟨insert, hinsert, rfl⟩
  size_eq := by
    have hmimes : (inserts.map Prod.fst).toFinset =
        ((empty.insertAll inserts).entries.map Prod.fst).toFinset := by
      ext mime
      rw [List.mem_toFinset, List.mem_toFinset, mimes_insertAll, List.mem_eraseDups]
    rw [hmimes, List.toFinset_card_of_nodup (nodup_insertAll inserts), List.length_map]
    rfl

/-- Insertions under mime types that are all different are the entries. -/
theorem entries_insertAll {inserts : List (String × Payload)}
    (h : (inserts.map Prod.fst).Nodup) : (empty.insertAll inserts).entries = inserts := by
  induction inserts using List.reverseRecOn with
  | nil => rfl
  | append_singleton inserts insert ih =>
      rw [List.map_append, List.nodup_append] at h
      obtain ⟨hbefore, -, hapart⟩ := h
      have hnew : insert.1 ∉ inserts.map Prod.fst :=
        fun hmem => hapart _ hmem _ (List.mem_singleton.mpr rfl) rfl
      rw [insertAll, List.foldl_concat]
      change Keyed.set insert.1 insert.2 (empty.insertAll inserts).entries = _
      rw [ih hbefore, Keyed.set_of_notMem _ hnew]

end Bundle

/-! ## The bundle of a map -/

namespace Script

/-- Whether entries stand in the order of their keys, as they do in every map. -/
def Ascending (entries : List (String × Value)) : Prop :=
  entries.Pairwise fun entry later => entry.1 < later.1

theorem mem_insertEntry {key : String} {value : Value} {entries : List (String × Value)}
    {entry : String × Value} (h : entry ∈ Value.insertEntry key value entries) :
    entry.1 = key ∨ entry ∈ entries := by
  fun_induction Value.insertEntry key value entries with
  | case1 => exact .inl (congrArg Prod.fst (List.mem_singleton.mp h))
  | case2 name old rest hless =>
      rcases List.mem_cons.mp h with rfl | hrest
      · exact .inl rfl
      · exact .inr hrest
  | case3 name old rest hless heq =>
      rcases List.mem_cons.mp h with rfl | hrest
      · exact .inl (beq_iff_eq.mp heq).symm
      · exact .inr (List.mem_cons_of_mem _ hrest)
  | case4 name old rest hless heq ih =>
      rcases List.mem_cons.mp h with rfl | hrest
      · exact .inr List.mem_cons_self
      · exact (ih hrest).imp_right (List.mem_cons_of_mem _)

/-- A map stays in order when the value of a key is set. -/
theorem Ascending.insertEntry (key : String) (value : Value) {entries : List (String × Value)}
    (h : Ascending entries) : Ascending (Value.insertEntry key value entries) := by
  induction entries with
  | nil => exact List.pairwise_singleton _ _
  | cons entry rest ih =>
      rcases entry with ⟨name, old⟩
      obtain ⟨hfirst, hrest⟩ := List.pairwise_cons.mp h
      rw [Value.insertEntry]
      split
      · next hless =>
          refine List.pairwise_cons.mpr ⟨fun later hlater => ?_, h⟩
          rcases List.mem_cons.mp hlater with rfl | hlater
          · exact hless
          · exact hless.trans (hfirst later hlater)
      · next hnot =>
          split
          · exact List.pairwise_cons.mpr ⟨hfirst, hrest⟩
          · next hne =>
              have hkey : name < key :=
                lt_of_le_of_ne (not_lt.mp hnot) fun heq => hne (beq_iff_eq.mpr heq.symm)
              refine List.pairwise_cons.mpr ⟨fun later hlater => ?_, ih hrest⟩
              rcases mem_insertEntry hlater with heq | hlater
              · exact heq ▸ hkey
              · exact hfirst later hlater

/-- A map that is put together from entries is in order. -/
theorem exists_ofEntries (pairs : List (String × Value)) :
    ∃ entries, Value.ofEntries pairs = .map entries ∧ Ascending entries := by
  refine ⟨_, rfl, ?_⟩
  induction pairs using List.reverseRecOn with
  | nil => exact List.Pairwise.nil
  | append_singleton pairs pair ih =>
      rw [List.foldl_concat]
      exact ih.insertEntry pair.1 pair.2

theorem Ascending.nodup {entries : List (String × Value)} (h : Ascending entries) :
    (entries.map Prod.fst).Nodup := by
  rw [List.Nodup, List.pairwise_map]
  exact h.imp ne_of_lt

namespace Library

theorem bundleOf_eq_insertAll (entries : List (String × Value)) :
    bundleOf entries =
      Bundle.empty.insertAll (entries.map fun entry => (entry.1, payload entry.2)) := by
  rw [bundleOf, Bundle.insertAll, List.foldl_map]

/-- The bundle of a map has an entry for each key, in order. -/
theorem bundleOf_eq {entries : List (String × Value)} (h : Ascending entries) :
    bundleOf entries = ⟨entries.map fun entry => (entry.1, payload entry.2)⟩ := by
  have hkeys : ((entries.map fun entry => (entry.1, payload entry.2)).map Prod.fst).Nodup := by
    rw [List.map_map]
    exact h.nodup
  rw [bundleOf_eq_insertAll]
  exact congrArg Bundle.mk (Bundle.entries_insertAll hkeys)

/-- A bundle has the entries of a map, in the order of their keys: octets as they are, and any other
value as text. -/
structure OfMap (entries : List (String × Value)) (bundle : Bundle) : Prop where
  mimes : bundle.entries.map Prod.fst = entries.map Prod.fst
  ascending : (bundle.entries.map Prod.fst).Pairwise (· < ·)
  binary : ∀ mime octets, (mime, .blob octets) ∈ entries →
    bundle.get? mime = some (.binary octets)
  text : ∀ mime value, (mime, value) ∈ entries → (∀ octets, value ≠ .blob octets) →
    bundle.get? mime = some (.text value.bare)

theorem ofMap_bundleOf {entries : List (String × Value)} (h : Ascending entries) :
    OfMap entries (bundleOf entries) := by
  have hmimes : (bundleOf entries).entries.map Prod.fst = entries.map Prod.fst := by
    rw [bundleOf_eq h, List.map_map]
    rfl
  have hnodup : ((bundleOf entries).entries.map Prod.fst).Nodup := hmimes ▸ h.nodup
  have hget (entry : String × Value) (hentry : entry ∈ entries) :
      (bundleOf entries).get? entry.1 = some (payload entry.2) := by
    have hmem : (entry.1, payload entry.2) ∈ (bundleOf entries).entries := by
      rw [bundleOf_eq h]
      exact List.mem_map_of_mem hentry
    exact (Keyed.lookup_eq_some_iff hnodup).mpr hmem
  refine ⟨hmimes, ?_, fun mime octets hentry => hget _ hentry, fun mime value hentry hvalue => ?_⟩
  · rw [hmimes, List.pairwise_map]
    exact h
  · rw [hget _ hentry, payload]
    exact hvalue

end Library

end Script

namespace Bundle

open Script (Ascending Rich Value)
open Script.Library (OfMap construct?)

/-- However a bundle is put together, from nothing or from one entry, it is a map in the order of
first insertion, in which insertions under mime types that are there commute.  One that a script
makes of a map has the entries of the map, and those are in the order of their keys. -/
theorem insertAll_ordered :
    (∀ inserts, (empty.insertAll inserts).Ordered inserts) ∧
      (∀ mime payload inserts,
        ((single mime payload).insertAll inserts).Ordered ((mime, payload) :: inserts)) ∧
      (∀ (bundle : Bundle) (mime other : String) (payload new : Payload), mime ≠ other →
        mime ∈ bundle.entries.map Prod.fst → other ∈ bundle.entries.map Prod.fst →
          (bundle.insert mime payload).insert other new =
            (bundle.insert other new).insert mime payload) ∧
      (∀ pairs, ∃ entries, Value.ofEntries pairs = .map entries ∧ Ascending entries) ∧
      ∀ entries, Ascending entries → ∃ bundle, OfMap entries bundle ∧
        construct? "mimebundle" [.map entries] =
          some (.rich { offers := { bundle := some bundle } }) ∧
        ∀ rich : Rich, construct? "mimebundle" [.rich rich, .map entries] =
          some (.rich { rich with offers := { rich.offers with bundle := some bundle } }) := by
  refine ⟨ordered_insertAll, fun mime payload inserts => ?_,
    fun bundle mime other payload new hne hmime _ => ?_, Script.exists_ofEntries,
    fun entries h => ⟨_, Script.Library.ofMap_bundleOf h, rfl, fun rich => rfl⟩⟩
  · exact ordered_insertAll ((mime, payload) :: inserts)
  · exact congrArg mk (Keyed.set_comm hne payload new hmime)

/-- A mime type keeps its place when it is inserted again, and a map goes by its keys. -/
theorem insertAll_ordered_again :
    let inserts := [("text/html", Payload.text "a"), ("text/plain", .text "b"),
      ("text/html", .binary [1])]
    let entries := [("image/png", Value.blob [0x89]), ("text/plain", .int 7)]
    (empty.insertAll inserts).Ordered inserts ∧
      (empty.insertAll inserts).entries = [("text/html", .binary [1]), ("text/plain", .text "b")] ∧
      Ascending entries ∧ ∃ bundle, OfMap entries bundle ∧
        construct? "mimebundle" [.map entries] =
          some (.rich { offers := { bundle := some bundle } }) := by
  intro inserts entries
  obtain ⟨hordered, -, -, -, hmap⟩ := insertAll_ordered
  have hentries : Ascending entries := by
    unfold Ascending
    decide
  obtain ⟨bundle, hbundle, hconstruct, -⟩ := hmap entries hentries
  exact ⟨hordered inserts, rfl, hentries, bundle, hbundle, hconstruct⟩

end Bundle

end Cellbook
