import Cellbook.Cell.Balance
import Cellbook.Text.Property

/-!
# Parts of a cell

The source of a cell is a body of statements and, where its last line stands by itself, a tail: the
line whose value is shown.  The last line belongs to the body if it begins with white space, since
it then continues what is above it, or if what is above it is not balanced.

Line ends are newlines, alone or after a carriage return; white space at the end does not count.
-/

namespace Cellbook

/-- The parts of a cell. -/
structure CellParts where
  /-- The statements to run first. -/
  body : Option String
  /-- The last line, whose value is shown. -/
  tail : Option String
  deriving Repr, DecidableEq

namespace CellParts

/-- The parts of a blank cell. -/
def empty : CellParts := ⟨none, none⟩

/-- Whether there is nothing to run. -/
def isEmpty (parts : CellParts) : Bool := parts.body.isNone && parts.tail.isNone

/-- Writes every line end as one newline. -/
def unifyLineEnds : List Char → List Char
  | [] => []
  | '\r' :: '\n' :: rest => '\n' :: unifyLineEnds rest
  | c :: rest => c :: unifyLineEnds rest

/-- Drops white space at the end. -/
def trimEnd (text : List Char) : List Char :=
  (text.reverse.dropWhile Text.isWhiteSpace).reverse

/-- A source text with line ends unified and white space dropped at the end. -/
def tidy (source : List Char) : List Char := trimEnd (unifyLineEnds source)

/-- The last line of a text. -/
def lastLine (text : List Char) : List Char :=
  (text.reverse.takeWhile (· != '\n')).reverse

/-- What stands before the newline that the last line follows; nothing in a text of one line. -/
def beforeLastLine (text : List Char) : List Char :=
  ((text.reverse.dropWhile (· != '\n')).drop 1).reverse

/-- Whether a text begins with white space. -/
def beginsBlank (text : List Char) : Bool := text.head?.any Text.isWhiteSpace

/-- The parts of a text that is tidy. -/
def ofTidy (text : List Char) : CellParts :=
  if text.isEmpty then .empty
  else
    let body := beforeLastLine text
    if beginsBlank (lastLine text) || !Cell.isBalanced body then ⟨some (String.ofList text), none⟩
    else
      ⟨if body.all Text.isWhiteSpace then none else some (String.ofList body),
        some (String.ofList (lastLine text))⟩

/-- The parts of a source text. -/
def ofSource (source : String) : CellParts := ofTidy (tidy source.toList)

end CellParts

end Cellbook
