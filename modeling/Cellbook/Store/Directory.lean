import Cellbook.Disk.Basic
import Cellbook.Store.Basic
import Cellbook.Text.Quoted

/-!
# Stores in a directory

The files that stand in one directory of a disk.  A name that would lead elsewhere is refused before
the disk is looked at.
-/

namespace Cellbook

/-- A store in a directory. -/
structure DirectoryStore where
  root : String
  disk : Disk
  deriving Repr

namespace DirectoryStore

/-- Whether a name names a file in a directory: it is not empty, leads neither here nor up, and
holds no separator. -/
def isFlat (name : String) : Bool :=
  name != "" && name != "." && name != ".." &&
    name.toList.all fun c => c != '/' && c != '\\'

/-- What a name that would lead elsewhere is reported as. -/
def notFlat (name : String) : IoFault :=
  ⟨.invalidInput, "not a flat file name: " ++ Text.quote name⟩

/-- The path of a file in a directory. -/
def path (root name : String) : Except IoFault String :=
  if isFlat name then .ok (Disk.join root name) else .error (notFlat name)

/-- Does to the disk what is to be done at a path, if there is one. -/
def update (store : DirectoryStore) (name : String)
    (change : Disk → String → Disk × Except IoFault Unit) :
    DirectoryStore × Except IoFault Unit :=
  match path store.root name with
  | .error fault => (store, .error fault)
  | .ok path =>
    let (disk, outcome) := change store.disk path
    ({ store with disk := disk }, outcome)

instance : FileStore DirectoryStore where
  list store := store.disk.list store.root
  size store name := (path store.root name).bind store.disk.size
  read store name := (path store.root name).bind store.disk.read
  write store name content := store.update name fun disk path => disk.write path content
  remove store name := store.update name Disk.remove
  exists? store name :=
    match path store.root name with
    | .error _ => false
    | .ok path => store.disk.isFile path

end DirectoryStore

end Cellbook
