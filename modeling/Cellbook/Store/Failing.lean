import Cellbook.Store.Basic

/-!
# Failing stores

A store whose device is gone: it fails at all it is asked, save perhaps the list of its files, and
takes every file to exist.
-/

namespace Cellbook

/-- A store whose device is gone. -/
structure FailingStore where
  kind : IoKind
  /-- The names still known, if any are. -/
  names : Option (List String)
  deriving Repr

namespace FailingStore

/-- What the store reports. -/
def fault (store : FailingStore) : IoFault := ⟨store.kind, "device gone"⟩

instance : FileStore FailingStore where
  list store :=
    match store.names with
    | some names => .ok names
    | none => .error store.fault
  size store _ := .error store.fault
  read store _ := .error store.fault
  write store _ _ := (store, .error store.fault)
  remove store _ := (store, .error store.fault)
  exists? _ _ := true

end FailingStore

end Cellbook
