import Cellbook.Proofs.Disk.Walk
import Cellbook.Store.Directory
import Cellbook.Store.Failing
import Cellbook.Store.Memory

/-!
# Laws of stores

A store keeps files apart: an operation that fails changes nothing, and one that does not changes
one file.  `LawfulStore` says so by what can be told of a file (`FileView`), which is all that those
who use a store get to see of it.

The stores in memory, in a directory and on a device that is gone are lawful.  Only the store in a
directory takes an argument, because there a name has first to be led to a place
(`Disk.exists_walk_of_locate`).
-/

namespace Cellbook

/-- What can be told of a file. -/
structure FileView where
  content : Except IoFault Bytes
  size : Except IoFault Nat
  present : Bool
  /-- Whether it is among the files that are listed. -/
  listed : Except IoFault Bool

namespace FileStore

variable {σ : Type} [FileStore σ]

/-- What a store tells of a file. -/
def view (store : σ) (name : String) : FileView where
  content := read store name
  size := size store name
  present := exists? store name
  listed := (list store).map fun names => decide (name ∈ names)

end FileStore

open FileStore (view)

/-- After a write, the file has the content written and is listed with all that were. -/
structure Stored {σ : Type} [FileStore σ] (before : σ) (name : String) (content : Bytes)
    (after : σ) : Prop where
  read : FileStore.read after name = .ok content
  size : FileStore.size after name = .ok content.length
  list : ∀ {names : List String}, FileStore.list before = .ok names →
    ∃ names', FileStore.list after = .ok names' ∧
      ∀ other, other ∈ names' ↔ other = name ∨ other ∈ names

/-- Stores that keep files apart. -/
class LawfulStore (σ : Type) [FileStore σ] : Prop where
  write_of_error : ∀ {store : σ} {name : String} {content : Bytes} {fault : IoFault},
    (FileStore.write store name content).2 = .error fault →
      (FileStore.write store name content).1 = store
  remove_of_error : ∀ {store : σ} {name : String} {fault : IoFault},
    (FileStore.remove store name).2 = .error fault → (FileStore.remove store name).1 = store
  view_write : ∀ (store : σ) {name other : String}, other ≠ name → ∀ content : Bytes,
    view (FileStore.write store name content).1 other = view store other
  view_remove : ∀ (store : σ) {name other : String}, other ≠ name →
    view (FileStore.remove store name).1 other = view store other
  stored : ∀ {store : σ} {name : String} {content : Bytes},
    (FileStore.write store name content).2 = .ok () →
      Stored store name content (FileStore.write store name content).1

/-! ## In memory -/

namespace MemoryStore

/-- What is told of a file depends on what is found and whether it is listed. -/
theorem view_congr {store after : MemoryStore} {name : String}
    (hget : after.get? name = store.get? name)
    (hlist : name ∈ after.names ↔ name ∈ store.names) :
    view after name = view store name := by
  simp only [view, FileStore.read, FileStore.size, FileStore.exists?, FileStore.list, hget,
    Except.map, hlist]

instance : LawfulStore MemoryStore where
  write_of_error h := nomatch h
  remove_of_error {store name fault} h := by
    simp only [FileStore.remove] at h ⊢
    split at h
    · cases h
    · next hnone => rw [if_neg hnone]
  view_write store {name other} hne content := by
    refine view_congr ((store.get?_insert name content other).trans (if_neg hne)) ?_
    exact (Keyed.mem_keys_set_iff name content store.files other).trans (or_iff_right hne)
  view_remove store {name other} hne := by
    simp only [FileStore.remove]
    split
    · exact view_congr ((store.get?_erase name other).trans (if_neg hne))
        ((Keyed.mem_keys_erase_iff name store.files).trans (and_iff_right hne))
    · rfl
  stored {store name content} _ := by
    have hget : (store.insert name content).get? name = some content :=
      (store.get?_insert name content name).trans (if_pos rfl)
    refine ⟨congrArg (found name) hget, ?_, fun {names} hnames => ⟨_, rfl, ?_⟩⟩
    · exact congrArg (fun got => found name (Option.map List.length got)) hget
    · cases hnames
      exact Keyed.mem_keys_set_iff name content store.files

end MemoryStore

/-! ## On a device that is gone -/

namespace FailingStore

instance : LawfulStore FailingStore where
  write_of_error _ := rfl
  remove_of_error _ := rfl
  view_write _ {_ _} _ _ := rfl
  view_remove _ {_ _} _ := rfl
  stored h := nomatch h

end FailingStore

/-! ## In a directory -/

namespace DirectoryStore

open Disk (Edited IsSegment approach join)

theorem isSegment_of_isFlat {name : String} (h : isFlat name = true) : IsSegment name := by
  simp only [isFlat, Bool.and_eq_true, bne_iff_ne, List.all_eq_true] at h
  obtain ⟨⟨⟨hempty, hcurrent⟩, hparent⟩, hplain⟩ := h
  exact ⟨hempty, hcurrent, hparent, fun hmem => (hplain '/' hmem).1 rfl⟩

/-- An edit of the file of a name, which is in the directory of the store. -/
structure EditedAt (store : DirectoryStore) (name : String) (base : List String) (disk : Disk) :
    Prop where
  flat : isFlat name = true
  locate : store.disk.locate (join store.root name) = .ok (base ++ [name])
  edited : Edited store.disk (base ++ [name]) disk

namespace EditedAt

variable {store : DirectoryStore} {name other : String} {base : List String} {disk : Disk}
  (h : EditedAt store name base disk)

include h

theorem walk : store.disk.walk [] (approach store.root) = .ok base := by
  obtain ⟨base', hwalk, hplace⟩ :=
    Disk.exists_walk_of_locate (isSegment_of_isFlat h.flat) h.locate
  rw [List.append_cancel_right hplace]
  exact hwalk

/-- Another name leads to where it led, and there stands what stood there. -/
theorem lookUp_eq (hother : IsSegment other) (hne : other ≠ name) :
    disk.lookUp (join store.root other) = store.disk.lookUp (join store.root other) := by
  rw [Disk.lookUp, Disk.lookUp, h.edited.locate_join hother h.walk]
  cases hlocate : store.disk.locate (join store.root other) with
  | error fault => rfl
  | ok place =>
      obtain ⟨base', hwalk, rfl⟩ := Disk.exists_walk_of_locate hother hlocate
      cases h.walk.symm.trans hwalk
      have hplace : base ++ [other] ≠ base ++ [name] := fun heq =>
        hne (List.singleton_inj.mp (List.append_cancel_left heq))
      dsimp only
      rw [h.edited.nodeAt?_eq hplace]

/-- An entry that is not of the file is there as it was. -/
theorem isFileIn_iff (hne : other ≠ name) :
    (∃ entry ∈ disk.nodes, Disk.IsFileIn base other entry) ↔
      ∃ entry ∈ store.disk.nodes, Disk.IsFileIn base other entry := by
  refine exists_congr fun entry => and_congr_left fun hentry => h.edited.mem_iff fun hplace => ?_
  have hlast := hentry.2.2
  rw [hplace, List.getLast?_concat] at hlast
  exact hne (Option.some.inj hlast).symm

/-- The files listed are those before, save perhaps the one of the name. -/
theorem list_cases :
    (∃ fault, store.disk.list store.root = .error fault ∧ disk.list store.root = .error fault) ∨
      ∃ names names', store.disk.list store.root = .ok names ∧
        disk.list store.root = .ok names' ∧
        (∀ other ≠ name, other ∈ names' ↔ other ∈ names) ∧
        ((∃ content, (base ++ [name], .file content) ∈ disk.nodes) → name ∈ names') := by
  have hlocate := h.edited.locate_root h.walk
  cases hroot : store.disk.locate store.root with
  | error fault =>
      rw [hroot] at hlocate
      exact .inl ⟨fault, by rw [Disk.list, hroot], by rw [Disk.list, hlocate]⟩
  | ok found =>
      obtain rfl := Disk.eq_of_locate h.walk hroot
      rw [hroot] at hlocate
      have hself : found ≠ found ++ [name] := fun heq => by simpa using congrArg List.length heq
      have hnode := h.edited.nodeAt?_eq hself
      by_cases hdirectory : store.disk.nodeAt? found = some .directory
      · obtain ⟨names, hnames, hmem⟩ := Disk.list_of_directory hroot hdirectory
        obtain ⟨names', hnames', hmem'⟩ :=
          Disk.list_of_directory hlocate (hnode.trans hdirectory)
        refine .inr ⟨names, names', hnames, hnames', fun other hne => ?_, ?_⟩
        · rw [hmem, hmem', h.isFileIn_iff hne]
        · rintro ⟨content, hentry⟩
          exact (hmem' name).mpr ⟨_, hentry, ⟨content, rfl⟩, List.dropLast_concat,
            List.getLast?_concat⟩
      · exact .inl (Disk.list_eq_of_ne hroot hlocate hdirectory hnode)

/-- Of another file the same is told. -/
theorem view_eq (hne : other ≠ name) :
    view { store with disk := disk } other = view store other := by
  have hlisted : (disk.list store.root).map (fun names => decide (other ∈ names)) =
      (store.disk.list store.root).map fun names => decide (other ∈ names) := by
    obtain ⟨fault, hlist, hlist'⟩ | ⟨names, names', hlist, hlist', hmem, -⟩ := h.list_cases
    · rw [hlist, hlist']
    · rw [hlist, hlist', Except.map, Except.map, decide_eq_decide.mpr (hmem other hne)]
  simp only [view, FileStore.read, FileStore.size, FileStore.exists?, FileStore.list, hlisted]
  cases hflat : isFlat other with
  | false => simp [path, hflat, Except.bind]
  | true =>
      have hlookUp := h.lookUp_eq (isSegment_of_isFlat hflat) hne
      simp [path, hflat, Except.bind, Disk.read, Disk.size, Disk.isFile, hlookUp]

end EditedAt

/-- A write fails and changes nothing, or edits the file of its name. -/
theorem write_cases (store : DirectoryStore) (name : String) (content : Bytes) :
    (∃ fault, FileStore.write store name content = (store, .error fault)) ∨
      ∃ base disk, EditedAt store name base disk ∧
        disk = ⟨Keyed.set (base ++ [name]) (.file content) store.disk.nodes⟩ ∧
        FileStore.write store name content = ({ store with disk := disk }, .ok ()) := by
  simp only [FileStore.write, update, path]
  cases hflat : isFlat name with
  | false => exact .inl ⟨_, rfl⟩
  | true =>
      simp only [if_true]
      obtain ⟨fault, hwrite⟩ | ⟨place, hlocate, hnode, -, hwrite⟩ :=
        store.disk.write_cases (join store.root name) content
      · exact .inl ⟨fault, by rw [hwrite]⟩
      · obtain ⟨base, -, rfl⟩ := Disk.exists_walk_of_locate (isSegment_of_isFlat hflat) hlocate
        exact .inr ⟨base, _, ⟨hflat, hlocate, Disk.edited_set hnode content⟩, rfl,
          by rw [hwrite]⟩

/-- A removal fails and changes nothing, or edits the file of its name. -/
theorem remove_cases (store : DirectoryStore) (name : String) :
    (∃ fault, FileStore.remove store name = (store, .error fault)) ∨
      ∃ base disk, EditedAt store name base disk ∧
        FileStore.remove store name = ({ store with disk := disk }, .ok ()) := by
  simp only [FileStore.remove, update, path]
  cases hflat : isFlat name with
  | false => exact .inl ⟨_, rfl⟩
  | true =>
      simp only [if_true]
      obtain ⟨fault, hremove⟩ | ⟨place, content, hlocate, hnode, hremove⟩ :=
        store.disk.remove_cases (join store.root name)
      · exact .inl ⟨fault, by rw [hremove]⟩
      · obtain ⟨base, -, rfl⟩ := Disk.exists_walk_of_locate (isSegment_of_isFlat hflat) hlocate
        have hfile : store.disk.nodeAt? (base ++ [name]) ≠ some .directory := by
          rw [hnode]
          exact nofun
        exact .inr ⟨base, _, ⟨hflat, hlocate, Disk.edited_erase hfile⟩, by rw [hremove]⟩

/-- A file that is written is what its name leads to. -/
theorem EditedAt.stored {store : DirectoryStore} {name : String} {content : Bytes}
    {base : List String} {disk : Disk} (h : EditedAt store name base disk)
    (hdisk : disk = ⟨Keyed.set (base ++ [name]) (.file content) store.disk.nodes⟩) :
    Stored store name content { store with disk := disk } := by
  have hlookUp : disk.lookUp (join store.root name) = .ok (.file content) := by
    rw [Disk.lookUp, h.edited.locate_join (isSegment_of_isFlat h.flat) h.walk, h.locate]
    dsimp only
    rw [hdisk, Disk.nodeAt?_set _ h.edited.ne_nil, if_pos rfl]
  refine ⟨?_, ?_, fun {names} hnames => ?_⟩
  · simp [FileStore.read, path, h.flat, Except.bind, Disk.read, hlookUp]
  · simp [FileStore.size, path, h.flat, Except.bind, Disk.size, hlookUp]
  · obtain ⟨fault, hlist, -⟩ | ⟨before, names', hlist, hlist', hmem, hself⟩ := h.list_cases
    · cases hlist.symm.trans hnames
    · cases hlist.symm.trans hnames
      have hnode : (base ++ [name], .file content) ∈ disk.nodes := by
        rw [hdisk]
        exact Keyed.mem_set _ _ _
      refine ⟨names', hlist', fun other => ?_⟩
      by_cases hother : other = name
      · exact ⟨fun _ => .inl hother, fun _ => hother ▸ hself ⟨content, hnode⟩⟩
      · rw [hmem other hother, or_iff_right hother]

instance : LawfulStore DirectoryStore where
  write_of_error {store name content fault} h := by
    obtain ⟨fault, hwrite⟩ | ⟨base, disk, -, -, hwrite⟩ := write_cases store name content
    · rw [hwrite]
    · rw [hwrite] at h
      cases h
  remove_of_error {store name fault} h := by
    obtain ⟨fault, hremove⟩ | ⟨base, disk, -, hremove⟩ := remove_cases store name
    · rw [hremove]
    · rw [hremove] at h
      cases h
  view_write store {name other} hne content := by
    obtain ⟨fault, hwrite⟩ | ⟨base, disk, hedited, -, hwrite⟩ := write_cases store name content
    · rw [hwrite]
    · rw [hwrite]
      exact hedited.view_eq hne
  view_remove store {name other} hne := by
    obtain ⟨fault, hremove⟩ | ⟨base, disk, hedited, hremove⟩ := remove_cases store name
    · rw [hremove]
    · rw [hremove]
      exact hedited.view_eq hne
  stored {store name content} h := by
    obtain ⟨fault, hwrite⟩ | ⟨base, disk, hedited, hdisk, hwrite⟩ := write_cases store name content
    · rw [hwrite] at h
      cases h
    · rw [hwrite]
      exact hedited.stored hdisk

end DirectoryStore

end Cellbook
