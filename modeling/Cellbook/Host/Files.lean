import Cellbook.Store.Directory

/-!
# Files

Reads the directories of the machine as stores, and writes back what a request changed in one.
-/

namespace Cellbook.Host

/-- The fault of an operation that the machine refused. -/
def ioFault : IO.Error → IoFault
  | .noFileOrDirectory _ _ _ => Disk.notFound
  | .permissionDenied _ _ _ => ⟨.permissionDenied, "Permission denied (os error 13)"⟩
  | .inappropriateType _ _ _ => Disk.isADirectory
  | fault => ⟨.other, toString fault⟩

/-- Does something to the machine and answers with the fault that it met, if any. -/
def attempt {α : Type} (action : IO α) : IO (Except IoFault α) := do
  try
    return .ok (← action)
  catch fault =>
    return .error (ioFault fault)

/-- Reads a file. -/
def readFile (path : String) : IO (Except IoFault Bytes) :=
  attempt do return (← IO.FS.readBinFile path).toList

/-- Whether a path leads to a directory. -/
def isDirectory (path : String) : IO Bool := do
  match ← attempt (IO.FS.realPath path) with
  | .error _ => return false
  | .ok place => place.isDir

/-- The name under which a directory stands in its store. -/
def storeRoot : String := "store"

/-- Reads a directory as a store.  A directory that cannot be read is missing from its store. -/
def readStore (path : String) : IO DirectoryStore := do
  if !(← isDirectory path) then return ⟨storeRoot, ⟨[]⟩⟩
  let entries ← (← IO.FS.realPath path).readDir
  let nodes ← entries.toList.filterMapM fun entry => do
    if ← entry.path.isDir then return some ([storeRoot, entry.fileName], DiskNode.directory)
    match ← readFile entry.path.toString with
    | .error _ => return none
    | .ok content => return some ([storeRoot, entry.fileName], DiskNode.file content)
  return ⟨storeRoot, ⟨([storeRoot], .directory) :: nodes⟩⟩

/-- The files of a store, with their contents. -/
def storedFiles (store : DirectoryStore) : List (String × Bytes) :=
  store.disk.nodes.filterMap fun entry =>
    match entry with
    | ([_, name], .file content) => some (name, content)
    | _ => none

/-- Writes what changed in a store back to its directory. -/
def writeBack (path : String) (before after : DirectoryStore) : IO (Except IoFault Unit) :=
  attempt do
    for (name, content) in storedFiles after do
      if (storedFiles before).lookup name != some content then
        IO.FS.writeBinFile (path ++ "/" ++ name) ⟨content.toArray⟩
    for (name, _) in storedFiles before do
      if ((storedFiles after).lookup name).isNone then IO.FS.removeFile (path ++ "/" ++ name)

end Cellbook.Host
