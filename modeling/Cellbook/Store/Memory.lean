import Cellbook.Keyed
import Cellbook.Store.Basic

/-!
# Stores in memory

Any text is a name, and only a missing file is a fault.
-/

namespace Cellbook

/-- A store in memory. -/
structure MemoryStore where
  files : List (String × Bytes)
  /-- A name is that of one file. -/
  nodup : (Keyed.keys files).Nodup
  deriving Repr

namespace MemoryStore

/-- The store with no files. -/
def empty : MemoryStore := ⟨[], List.nodup_nil⟩

/-- The names of the files. -/
def names (store : MemoryStore) : List String := Keyed.keys store.files

/-- What a missing file is reported as. -/
def missing (name : String) : IoFault := ⟨.notFound, "no such file: " ++ name⟩

/-- The content of a file. -/
def get? (store : MemoryStore) (name : String) : Option Bytes := store.files.lookup name

/-- Sets the content of a file. -/
def insert (store : MemoryStore) (name : String) (content : Bytes) : MemoryStore :=
  ⟨Keyed.set name content store.files, Keyed.nodup_keys_set name content store.nodup⟩

/-- The store without a file. -/
def erase (store : MemoryStore) (name : String) : MemoryStore :=
  ⟨Keyed.erase name store.files, Keyed.nodup_keys_erase name store.nodup⟩

/-- Setting the content of a file changes that of no other. -/
theorem get?_insert (store : MemoryStore) (name : String) (content : Bytes) (other : String) :
    (store.insert name content).get? other =
      if other = name then some content else store.get? other :=
  Keyed.lookup_set name content store.files other

/-- Erasing a file takes away its content and that of no other. -/
theorem get?_erase (store : MemoryStore) (name other : String) :
    (store.erase name).get? other = if other = name then none else store.get? other :=
  Keyed.lookup_erase name store.files other

theorem isSome_get?_iff (store : MemoryStore) (name : String) :
    (store.get? name).isSome = true ↔ name ∈ store.names :=
  Keyed.isSome_lookup_iff store.files name

/-- What is found is what is there. -/
theorem get?_eq_some_iff {store : MemoryStore} {name : String} {content : Bytes} :
    store.get? name = some content ↔ (name, content) ∈ store.files :=
  Keyed.lookup_eq_some_iff store.nodup

/-- What is found, or that the file is missing. -/
def found {α : Type} (name : String) : Option α → Except IoFault α
  | some a => .ok a
  | none => .error (missing name)

instance : FileStore MemoryStore where
  list store := .ok store.names
  size store name := found name ((store.get? name).map List.length)
  read store name := found name (store.get? name)
  write store name content := (store.insert name content, .ok ())
  remove store name :=
    if (store.get? name).isSome then (store.erase name, .ok ())
    else (store, .error (missing name))
  exists? store name := (store.get? name).isSome

end MemoryStore

end Cellbook
