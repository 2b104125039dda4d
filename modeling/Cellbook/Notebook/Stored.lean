import Cellbook.Json.Compact
import Cellbook.Json.Decode
import Cellbook.Notebook.Document
import Cellbook.Notebook.Name

/-!
# Stored form of notebooks

Documents and names of notebooks as JSON texts.  A document is an object with its cells, a cell an
object with its kind and, unless there are none, its source lines.
-/

namespace Cellbook

open Json (Reader Record)

/-- Takes a field that was read, or names it as missing. -/
def required {α : Type} (name : String) : Option α → Except String α
  | some value => .ok value
  | none => .error name

namespace DocumentCell

/-- What has been read of a cell. -/
structure Gathered where
  kind : Option String := none
  source : Option (List String) := none

/-- The members of a stored cell. -/
def record : Record Gathered DocumentCell where
  name := "NotebookCell"
  fields :=
    [⟨"cell_type", (·.kind.isSome), fun p => do pure { p with kind := some (← Json.text) }⟩,
      ⟨"source", (·.source.isSome),
        fun p => do pure { p with source := some (← Json.list Json.text) }⟩]
  start := {}
  finish p := do
    let kind ← required "cell_type" p.kind
    pure ⟨kind, p.source.getD []⟩

/-- The written form of a cell. -/
def toJson (cell : DocumentCell) : String :=
  Json.writeObject
    [("cell_type", Json.quote cell.kind), ("source", Json.writeList (cell.source.map Json.quote))]

end DocumentCell

namespace Document

/-- The members of a stored document. -/
def record : Record (Option (List DocumentCell)) Document where
  name := "NotebookDocument"
  fields :=
    [⟨"cells", Option.isSome, fun _ => do pure (some (← Json.list DocumentCell.record.reader))⟩]
  start := none
  finish p := (required "cells" p).map Document.mk

/-- The written form of a document. -/
def toJson (document : Document) : String :=
  Json.writeObject [("cells", Json.writeList (document.cells.map DocumentCell.toJson))]

/-- Reads the written form of a document. -/
def decode (octets : Bytes) : Except Json.Fault Document := Json.decode record.reader octets

end Document

namespace NotebookId

/-- The message for a name that no notebook has. -/
def invalidMessage (name : String) : String := "invalid notebook name: " ++ name

/-- Reads the written form of a name. -/
def reader : Reader NotebookId := do
  let name ← Json.text
  match ofName? name with
  | some id => pure id
  | none => Json.refuse (.refused (invalidMessage name))

/-- Reads the written form of a name. -/
def decode (octets : Bytes) : Except Json.Fault NotebookId := Json.decode reader octets

end NotebookId

end Cellbook
