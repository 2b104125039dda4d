import Cellbook.Disk.Path
import Cellbook.IoFault
import Cellbook.Keyed
import Cellbook.Text.Utf8

/-!
# Disks

Files and directories by path, and the faults that an operating system reports for them.  The
directory at the top always exists.
-/

namespace Cellbook

/-- What stands on a disk. -/
inductive DiskNode where
  | file (content : Bytes)
  | directory
  deriving Repr, DecidableEq

/-- Files and directories, each by the names that lead to it from the top. -/
structure Disk where
  nodes : List (List String × DiskNode)
  deriving Repr

namespace Disk

/-- No such file or directory. -/
def notFound : IoFault := ⟨.notFound, "No such file or directory (os error 2)"⟩

/-- A file where a directory is needed. -/
def notADirectory : IoFault := ⟨.notADirectory, "Not a directory (os error 20)"⟩

/-- A directory where a file is needed. -/
def isADirectory : IoFault := ⟨.isADirectory, "Is a directory (os error 21)"⟩

/-- A name or a path with too many octets. -/
def nameTooLong : IoFault := ⟨.invalidFilename, "File name too long (os error 36)"⟩

/-- A path with a NUL in it. -/
def nulInPath : IoFault := ⟨.invalidInput, "file name contained an unexpected NUL byte"⟩

/-- The largest number of octets in a name. -/
def maxName : Nat := 255

/-- The least number of octets that is too many for a path. -/
def pathLimit : Nat := 4096

/-- The number of octets of a text. -/
def octetCount (text : String) : Nat := text.utf8ByteSize

/-- What stands at a place. -/
def nodeAt? (disk : Disk) (place : List String) : Option DiskNode :=
  if place.isEmpty then some .directory
  else disk.nodes.lookup place

/-- The place that steps lead to from a place.  Every place on the way has to be a directory; what
is at the end of the way need not exist. -/
def resolve (disk : Disk) : List String → List Step → Except IoFault (List String)
  | place, [] => .ok place
  | _, .root :: rest => disk.resolve [] rest
  | place, .current :: rest => disk.resolve place rest
  | place, .parent :: rest => disk.resolve place.dropLast rest
  | place, .down name :: rest =>
    if maxName < octetCount name then .error nameTooLong
    else
      let next := place ++ [name]
      if rest.isEmpty then .ok next
      else
        match disk.nodeAt? next with
        | some .directory => disk.resolve next rest
        | some (.file _) => .error notADirectory
        | none => .error notFound

/-- The place that a path leads to. -/
def locate (disk : Disk) (path : String) : Except IoFault (List String) :=
  if path.toList.contains (Char.ofNat 0) then .error nulInPath
  else if pathLimit ≤ octetCount path then .error nameTooLong
  else if path.isEmpty then .error notFound
  else disk.resolve [] (steps path)

/-- What stands at the end of a path. -/
def lookUp (disk : Disk) (path : String) : Except IoFault DiskNode :=
  match disk.locate path with
  | .error fault => .error fault
  | .ok place =>
    match disk.nodeAt? place with
    | some node => .ok node
    | none => .error notFound

/-- The content of a file. -/
def read (disk : Disk) (path : String) : Except IoFault Bytes :=
  match disk.lookUp path with
  | .error fault => .error fault
  | .ok .directory => .error isADirectory
  | .ok (.file content) => .ok content

/-- The size that a directory is given. -/
def directorySize : Nat := 4096

/-- The size of a file in octets. -/
def size (disk : Disk) (path : String) : Except IoFault Nat :=
  match disk.lookUp path with
  | .error fault => .error fault
  | .ok .directory => .ok directorySize
  | .ok (.file content) => .ok content.length

/-- Whether a path leads to a file. -/
def isFile (disk : Disk) (path : String) : Bool :=
  match disk.lookUp path with
  | .ok (.file _) => true
  | _ => false

/-- Whether a path leads to a directory. -/
def isDirectory (disk : Disk) (path : String) : Bool :=
  match disk.lookUp path with
  | .ok .directory => true
  | _ => false

/-- Sets the content of a file, which need not exist. -/
def write (disk : Disk) (path : String) (content : Bytes) : Disk × Except IoFault Unit :=
  match disk.locate path with
  | .error fault => (disk, .error fault)
  | .ok place =>
    if disk.nodeAt? place == some .directory then (disk, .error isADirectory)
    else if disk.nodeAt? place.dropLast != some .directory then (disk, .error notFound)
    else (⟨Keyed.set place (.file content) disk.nodes⟩, .ok ())

/-- Removes a file. -/
def remove (disk : Disk) (path : String) : Disk × Except IoFault Unit :=
  match disk.locate path with
  | .error fault => (disk, .error fault)
  | .ok place =>
    match disk.nodeAt? place with
    | none => (disk, .error notFound)
    | some .directory => (disk, .error isADirectory)
    | some (.file _) => (⟨Keyed.erase place disk.nodes⟩, .ok ())

/-- The names of the files in a directory. -/
def list (disk : Disk) (path : String) : Except IoFault (List String) :=
  match disk.locate path with
  | .error fault => .error fault
  | .ok place =>
    match disk.nodeAt? place with
    | none => .error notFound
    | some (.file _) => .error notADirectory
    | some .directory =>
      .ok (disk.nodes.filterMap fun entry =>
        match entry.2 with
        | .directory => none
        | .file _ => if entry.1.dropLast == place then entry.1.getLast? else none)

end Disk

end Cellbook
