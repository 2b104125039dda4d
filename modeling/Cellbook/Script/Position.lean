/-!
# Positions

Where something stands in a source text: line and column, both counted from one, columns in
characters.  Neither count goes beyond `Position.limit`: further characters have the last column,
and no line begins after the last one.
-/

namespace Cellbook.Script

/-- A place in a source text. -/
structure Position where
  line : Nat
  column : Nat
  deriving Repr, DecidableEq, Inhabited

namespace Position

/-- The place of the first character. -/
def start : Position := ⟨1, 1⟩

/-- The greatest line and column. -/
def limit : Nat := 65535

/-- The start of the next line, if there can be one. -/
def nextLine (p : Position) : Position :=
  if p.line < limit then ⟨p.line + 1, 1⟩ else p

/-- The next column. -/
def nextColumn (p : Position) : Position := ⟨p.line, min limit (p.column + 1)⟩

/-- The place after a character. -/
def after (p : Position) (c : Char) : Position :=
  if c == '\n' && p.line < limit then nextLine p else nextColumn p

/-- The place before this one on the same line. -/
def previous (p : Position) : Position := ⟨p.line, p.column - 1⟩

/-- A position as messages tell it. -/
def describe (p : Position) : String :=
  "line " ++ toString p.line ++ ", position " ++ toString p.column

/-- The end of a message that may know its place. -/
def suffix : Option Position → String
  | none => ""
  | some p => " (" ++ p.describe ++ ")"

end Position

end Cellbook.Script
