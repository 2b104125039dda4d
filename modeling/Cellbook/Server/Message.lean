import Cellbook.Notebook.Stored

/-!
# Messages

What clients send and get as JSON: the request to run a cell, and the entries of the listing of
stored notebooks.
-/

namespace Cellbook.Server

open Json (Reader Record)

/-- A request to run a cell. -/
structure RunCellRequest where
  /-- The name of the notebook, not yet checked. -/
  name : String
  /-- The source lines of the cell. -/
  source : List String
  deriving Repr, DecidableEq

namespace RunCellRequest

/-- What has been read of a request. -/
structure Gathered where
  name : Option String := none
  source : Option (List String) := none

/-- The members of a request; the source may be missing. -/
def record : Record Gathered RunCellRequest where
  name := "RunCellRequest"
  fields :=
    [⟨"fn", (·.name.isSome), fun g => do pure { g with name := some (← Json.text) }⟩,
      ⟨"source", (·.source.isSome),
        fun g => do pure { g with source := some (← Json.list Json.text) }⟩]
  start := {}
  finish g := do
    let name ← required "fn" g.name
    pure ⟨name, g.source.getD []⟩

/-- Reads the written form of a request. -/
def decode (octets : Bytes) : Except Json.Fault RunCellRequest := Json.decode record.reader octets

/-- The source of the cell as one text. -/
def text (request : RunCellRequest) : String := "\n".intercalate request.source

end RunCellRequest

/-- An entry of the listing of stored notebooks. -/
structure FileEntry where
  name : String
  /-- Whether the notebook has an environment. -/
  running : Bool
  /-- The size of the document in octets. -/
  size : Nat
  deriving Repr, DecidableEq

namespace FileEntry

/-- What has been read of an entry. -/
structure Gathered where
  name : Option String := none
  running : Option Bool := none
  size : Option Nat := none

/-- The members of an entry. -/
def record : Record Gathered FileEntry where
  name := "FileEntry"
  fields :=
    [⟨"fn", (·.name.isSome), fun g => do pure { g with name := some (← Json.text) }⟩,
      ⟨"running", (·.running.isSome), fun g => do pure { g with running := some (← Json.boolean) }⟩,
      ⟨"size", (·.size.isSome), fun g => do pure { g with size := some (← Json.count) }⟩]
  start := {}
  finish g := do
    let name ← required "fn" g.name
    let running ← required "running" g.running
    let size ← required "size" g.size
    pure ⟨name, running, size⟩

/-- Reads the written form of an entry. -/
def decode (octets : Bytes) : Except Json.Fault FileEntry := Json.decode record.reader octets

/-- The written form of an entry. -/
def toJson (entry : FileEntry) : String :=
  Json.writeObject
    [("fn", Json.quote entry.name), ("running", Json.writeBool entry.running),
      ("size", toString entry.size)]

end FileEntry

end Cellbook.Server
