/-!
# Notebook documents

The stored form of a notebook: its cells in the order shown, each with a kind and its source lines.
-/

namespace Cellbook

/-- A cell of a stored notebook. -/
structure DocumentCell where
  /-- The kind of the cell, such as `code` or `markdown`. -/
  kind : String
  /-- The lines of its source, without line ends. -/
  source : List String
  deriving Repr, DecidableEq

namespace DocumentCell

/-- The kind of the cells that are run. -/
def codeKind : String := "code"

/-- A cell that is run. -/
def code (source : List String) : DocumentCell := ⟨codeKind, source⟩

/-- Whether the cell is run. -/
def isCode (cell : DocumentCell) : Bool := cell.kind == codeKind

/-- The source as one text. -/
def text (cell : DocumentCell) : String := "\n".intercalate cell.source

end DocumentCell

/-- A stored notebook. -/
structure Document where
  cells : List DocumentCell
  deriving Repr, DecidableEq

namespace Document

/-- A new notebook: one code cell with nothing in it. -/
def blank : Document := ⟨[.code []]⟩

/-- The cells that are run, in order. -/
def codeCells (document : Document) : List DocumentCell := document.cells.filter DocumentCell.isCode

end Document

end Cellbook
