import Cellbook.Proofs.Notebook.Name
import Cellbook.Proofs.Store.Laws
import Cellbook.Server.Handler

/-!
# What a store in a directory reaches

Two filters stand between a name from outside and the disk: sanitizing, which never fails, and the
store in a directory, which refuses a name that would lead elsewhere.  The second lets through only
the names of files that stand directly in its directory (`DirectoryStore.path_cases`), and it never
refuses what the first makes of the name of a notebook (`DirectoryStore.isFlat_sanitize`).  So what
the handlers ask of the store is asked of the disk, and at a place in the directory
(`DirectoryStore.contained`).
-/

namespace Cellbook

namespace Disk

/-! ## Components -/

/-- The steps by which a path is told from others.  A step that stays is one of them only where the
path begins with it. -/
def components (path : String) : List Step :=
  (approach path).take 1 ++ ((approach path).drop 1).filter (· != .current)

/-- The way to a file in a directory goes through the directory. -/
theorem approach_join (root : String) {name : String} (hname : IsSegment name) :
    approach (join root name) = approach root ++ [.down name] := by
  have hsteps := (steps_eq (join root name)).symm.trans (steps_join root hname)
  split at hsteps
  · -- The last step of a path that ends in a slash stays, and this one's goes down.
    obtain ⟨-, hlast⟩ := List.append_inj' hsteps rfl
    cases hlast
  · rwa [List.append_nil] at hsteps

/-- A file in a directory has the components of the directory and one more. -/
theorem components_join (root : String) {name : String} (hname : IsSegment name) :
    components (join root name) = components root ++ [.down name] := by
  rw [components, components, approach_join root hname]
  cases approach root with
  | nil => rfl
  | cons first rest =>
      simp only [List.cons_append, List.take_succ_cons, List.take_zero, List.drop_succ_cons,
        List.drop_zero, List.filter_append]
      rfl

end Disk

namespace DirectoryStore

open Disk (Step components approach join)

/-! ## Names let through -/

/-- A path is that of the file of a name directly in a directory: it takes one step down from the
directory, and on any disk it leads to that name in the place where the directory is. -/
structure IsChild (root name path : String) : Prop where
  components_eq : components path = components root ++ [.down name]
  place : ∀ {disk : Disk} {place : List String}, disk.locate path = .ok place →
    ∃ base, disk.walk [] (approach root) = .ok base ∧ place = base ++ [name]
  place_of_root : ∀ {disk : Disk} {base place : List String}, disk.locate root = .ok base →
    disk.locate path = .ok place → place = base ++ [name]

theorem isChild_join (root : String) {name : String} (h : isFlat name = true) :
    IsChild root name (join root name) where
  components_eq := Disk.components_join root (isSegment_of_isFlat h)
  place := Disk.exists_walk_of_locate (isSegment_of_isFlat h)
  place_of_root hroot hplace := by
    obtain ⟨base, hwalk, rfl⟩ := Disk.exists_walk_of_locate (isSegment_of_isFlat h) hplace
    rw [Disk.eq_of_locate hwalk hroot]

/-- Files of different names directly in a directory have different paths. -/
theorem IsChild.name_eq {root name other path : String} (h : IsChild root name path)
    (hother : IsChild root other path) : other = name := by
  have hsteps := hother.components_eq.symm.trans h.components_eq
  have hlast := List.append_cancel_left hsteps
  cases hlast
  rfl

/-! ## Names refused -/

/-- A name is refused with a fault for what it is: nothing is done at it, whatever is to be done,
and what is told of it depends on no disk. -/
structure Refused (root name : String) (fault : IoFault) : Prop where
  kind_eq : fault.kind = .invalidInput
  size : ∀ disk, FileStore.size (⟨root, disk⟩ : DirectoryStore) name = .error fault
  read : ∀ disk, FileStore.read (⟨root, disk⟩ : DirectoryStore) name = .error fault
  update : ∀ disk change, (⟨root, disk⟩ : DirectoryStore).update name change =
    (⟨root, disk⟩, .error fault)
  write : ∀ disk content, FileStore.write (⟨root, disk⟩ : DirectoryStore) name content =
    (⟨root, disk⟩, .error fault)
  remove : ∀ disk, FileStore.remove (⟨root, disk⟩ : DirectoryStore) name =
    (⟨root, disk⟩, .error fault)
  exists?_eq : ∀ disk, FileStore.exists? (⟨root, disk⟩ : DirectoryStore) name = false

theorem path_of_isFlat (root : String) {name : String} (h : isFlat name = true) :
    path root name = .ok (join root name) := if_pos h

theorem refused_of_path {root name : String} {fault : IoFault} (h : path root name = .error fault)
    (hkind : fault.kind = .invalidInput) : Refused root name fault where
  kind_eq := hkind
  size disk := by simp only [FileStore.size, h, Except.bind]
  read disk := by simp only [FileStore.read, h, Except.bind]
  update disk change := by simp only [DirectoryStore.update, h]
  write disk content := by simp only [FileStore.write, DirectoryStore.update, h]
  remove disk := by simp only [FileStore.remove, DirectoryStore.update, h]
  exists?_eq disk := by simp only [FileStore.exists?, h]

/-- A name is let through to the file of that name directly in the directory, or refused. -/
theorem path_cases (root name : String) :
    (∃ target, path root name = .ok target ∧ IsChild root name target) ∨
      ∃ fault, path root name = .error fault ∧ Refused root name fault := by
  cases hflat : isFlat name with
  | true => exact .inl ⟨_, path_of_isFlat root hflat, isChild_join root hflat⟩
  | false =>
      have hpath : path root name = .error (notFlat name) := by rw [path, hflat]; rfl
      exact .inr ⟨_, hpath, refused_of_path hpath rfl⟩

/-! ## Names of notebooks -/

/-- A name is let through if it ends as a notebook's does and all its characters may stand in the
name of a file. -/
theorem isFlat_of_suffixed {name : String} (hsuffix : hasNotebookSuffix name = true)
    (h : ∀ c ∈ name.toList, isFileNameChar c = true) : isFlat name = true := by
  have hne (other : String) (hother : hasNotebookSuffix other = false) : name ≠ other := by
    rintro rfl
    rw [hsuffix] at hother
    cases hother
  have hplain : ∀ c ∈ name.toList, c ≠ '/' ∧ c ≠ '\\' := by
    intro c hc
    constructor
    · rintro rfl
      exact absurd (h _ hc) (by decide)
    · rintro rfl
      exact absurd (h _ hc) (by decide)
  simp only [isFlat, Bool.and_eq_true, bne_iff_ne, List.all_eq_true]
  exact ⟨⟨⟨hne "" (by decide), hne "." (by decide)⟩, hne ".." (by decide)⟩, hplain⟩

/-- What is made of the name of a notebook is let through. -/
theorem isFlat_sanitize {raw : String} (h : hasNotebookSuffix raw = true) :
    isFlat (sanitize raw) = true :=
  isFlat_of_suffixed ((hasNotebookSuffix_sanitize raw).trans h)
    fun _ => isFileNameChar_of_mem_sanitize

end DirectoryStore

namespace Server

variable {ε ν σ τ : Type}

/-! ## What handlers ask of a store -/

/-- What is answered when a store has done, or not, what it was asked to do with a document. -/
def doneWith (name : String) (outcome : Except IoFault Unit) : Handled :=
  (outcome.mapError (ServerFault.ofIo name)).map fun _ => .ofStatus 200

/-- What is answered when a store was asked for a document. -/
def readFrom (name : String) (outcome : Except IoFault Bytes) : Handled :=
  (outcome.mapError (ServerFault.ofIo name)).map (.ofContent jsonType)

namespace Service

variable [FileStore σ] (service : Service ε ν σ τ) {raw : String}

/-- A document is saved under the sanitized name. -/
theorem save_eq_write (h : hasNotebookSuffix raw = true) (body : Bytes) :
    service.save raw true body =
      ({ service with store := (FileStore.write service.store (sanitize raw) body).1 },
        doneWith (sanitize raw) (FileStore.write service.store (sanitize raw) body).2) := by
  rw [save, NotebookId.ofName?_eq_some ((hasNotebookSuffix_sanitize raw).trans h)]
  simp only [Bool.not_true, Bool.false_eq_true, if_false]
  rcases FileStore.write service.store (sanitize raw) body with ⟨store, fault | ⟨⟩⟩ <;> rfl

/-- A document is deleted under the sanitized name. -/
theorem delete_eq_remove (h : hasNotebookSuffix raw = true) {body : Bytes}
    (hbody : Json.decode Json.text body = .ok raw) :
    service.delete body =
      ({ service with store := (FileStore.remove service.store (sanitize raw)).1 },
        doneWith (sanitize raw) (FileStore.remove service.store (sanitize raw)).2) := by
  have hname : notebookName body = .ok ⟨raw, h⟩ := by
    rw [notebookName, hbody]
    dsimp only
    rw [NotebookId.ofName?_eq_some h]
  rw [delete, hname]
  dsimp only
  rcases FileStore.remove service.store (sanitize raw) with ⟨store, fault | ⟨⟩⟩ <;> rfl

/-- A document is loaded under the sanitized name, unless that is the name of a new notebook. -/
theorem loadNotebook_eq_read (h : hasNotebookSuffix raw = true)
    (hname : sanitize raw ≠ newNotebookName) :
    service.loadNotebook raw =
      readFrom (sanitize raw) (FileStore.read service.store (sanitize raw)) := by
  rw [loadNotebook, h]
  simp only [Bool.not_true, Bool.false_eq_true, if_false, if_neg hname]
  rcases FileStore.read service.store (sanitize raw) with fault | octets <;> rfl

end Service

/-- A name leads each handler to one path of the disk: what is saved, deleted or loaded under it is
what is written, removed or read there. -/
structure Reaches (root raw path : String) : Prop where
  save : ∀ (service : Service ε ν DirectoryStore τ) (body : Bytes), service.store.root = root →
    service.save raw true body =
      ({ service with store := ⟨root, (service.store.disk.write path body).1⟩ },
        doneWith (sanitize raw) (service.store.disk.write path body).2)
  delete : ∀ (service : Service ε ν DirectoryStore τ) (body : Bytes), service.store.root = root →
    Json.decode Json.text body = .ok raw →
      service.delete body =
        ({ service with store := ⟨root, (service.store.disk.remove path).1⟩ },
          doneWith (sanitize raw) (service.store.disk.remove path).2)
  load : ∀ service : Service ε ν DirectoryStore τ, service.store.root = root →
    sanitize raw ≠ newNotebookName →
      service.loadNotebook raw = readFrom (sanitize raw) (service.store.disk.read path)

end Server

namespace DirectoryStore

open Disk (Step components approach join)

variable {ε ν τ : Type}

theorem reaches_of_path {root raw target : String} (h : hasNotebookSuffix raw = true)
    (hpath : path root (sanitize raw) = .ok target) :
    Server.Reaches (ε := ε) (ν := ν) (τ := τ) root raw target where
  save service body hroot := by
    subst hroot
    rw [service.save_eq_write h]
    simp only [FileStore.write, update, hpath]
  delete service body hroot hbody := by
    subst hroot
    rw [service.delete_eq_remove h hbody]
    simp only [FileStore.remove, update, hpath]
  load service hroot hname := by
    subst hroot
    rw [service.loadNotebook_eq_read h hname]
    simp only [FileStore.read, hpath, Except.bind]

/-- A store in a directory never leaves it and never refuses a notebook.  A name is let through to
the file of that name directly in the directory, or refused before the disk is looked at; and from
the name of a notebook, every handler is let through to one such file. -/
theorem contained (root : String) :
    (∀ name,
      (∃ target, path root name = .ok target ∧ IsChild root name target ∧
        ∀ other, path root other = .ok target → other = name) ∨
      ∃ fault, path root name = .error fault ∧ Refused root name fault) ∧
    ∀ raw, hasNotebookSuffix raw = true →
      ∃ target, path root (sanitize raw) = .ok target ∧ IsChild root (sanitize raw) target ∧
        Server.Reaches (ε := ε) (ν := ν) (τ := τ) root raw target := by
  refine ⟨fun name => ?_, fun raw h => ?_⟩
  · obtain ⟨target, hpath, hchild⟩ | hrefused := path_cases root name
    · refine .inl ⟨target, hpath, hchild, fun other hother => ?_⟩
      obtain ⟨target', hpath', hchild'⟩ | ⟨fault, hpath', -⟩ := path_cases root other
      · cases hpath'.symm.trans hother
        exact hchild.name_eq hchild'
      · cases hpath'.symm.trans hother
    · exact .inr hrefused
  · have hflat := isFlat_sanitize h
    have hpath := path_of_isFlat root hflat
    exact ⟨_, hpath, isChild_join root hflat, reaches_of_path h hpath⟩

/-- A name that leads out of the directory is refused as it is, and sanitized, as the handlers ask for
it, it is that of a file in the directory. -/
theorem contained_traversal :
    let raw := "../a.unb"
    (∃ fault, path "books" raw = .error fault ∧ Refused "books" raw fault) ∧
      path "books" (sanitize raw) = .ok "books/.._a.unb" ∧
      IsChild "books" ".._a.unb" "books/.._a.unb" ∧
      Server.Reaches (ε := Unit) (ν := Unit) (τ := Unit) "books" raw "books/.._a.unb" := by
  intro raw
  obtain ⟨hnames, hnotebooks⟩ := contained (ε := Unit) (ν := Unit) (τ := Unit) "books"
  have hrefused : path "books" raw = .error (notFlat raw) := if_neg (by decide)
  have hsanitized : sanitize raw = ".._a.unb" := by decide +kernel
  have htarget : path "books" (sanitize raw) = .ok "books/.._a.unb" := by
    rw [hsanitized, path_of_isFlat "books" (by decide)]
    rfl
  refine ⟨?_, htarget, ?_⟩
  · obtain ⟨target, hpath, -⟩ | hfault := hnames raw
    · cases hrefused.symm.trans hpath
    · exact hfault
  · obtain ⟨target, hpath, hchild, hreaches⟩ := hnotebooks raw (by decide)
    cases htarget.symm.trans hpath
    rw [hsanitized] at hchild
    exact ⟨hchild, hreaches⟩

end DirectoryStore

end Cellbook
