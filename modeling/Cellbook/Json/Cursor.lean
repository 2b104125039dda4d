import Cellbook.Json.Fault
import Cellbook.Text.Utf8

/-!
# Cursors

A cursor is a place in a text together with the octets from there on.  A `Reader` moves a cursor and
answers a value or a fault; a fault leaves the cursor where reading stopped.

Faults stand at the place the cursor has reached (`failHere`) or just after the octet it looks at
(`failAhead`).
-/

namespace Cellbook.Json

/-- A place in a text and the octets from there on. -/
structure Cursor where
  place : Place
  rest : Bytes
  deriving Repr, DecidableEq

/-- The place after an octet. -/
def Place.after (place : Place) (b : UInt8) : Place :=
  if b == '\n'.toUInt8 then ⟨place.line + 1, 0⟩ else ⟨place.line, place.column + 1⟩

namespace Cursor

/-- The start of a text. -/
def start (text : Bytes) : Cursor := ⟨⟨1, 0⟩, text⟩

/-- The place after the octet that comes next, or where the text ends. -/
def ahead (cursor : Cursor) : Place :=
  match cursor.rest with
  | [] => cursor.place
  | b :: _ => cursor.place.after b

/-- The cursor past the octet that comes next. -/
def advance (cursor : Cursor) : Cursor := ⟨cursor.ahead, cursor.rest.tail⟩

end Cursor

/-- Reads from a cursor. -/
abbrev Reader := EStateM Fault Cursor

variable {α : Type}

/-- Refuses the text at the place reached. -/
def failHere (cause : Cause) : Reader α := do
  throw ⟨cause, some (← get).place⟩

/-- Refuses the text for the octet that comes next. -/
def failAhead (cause : Cause) : Reader α := do
  throw ⟨cause, some (← get).ahead⟩

/-- Refuses a value, at a place still to be found. -/
def refuse (cause : Cause) : Reader α := throw ⟨cause, none⟩

/-- Gives a refusal of a value the place reached when it came up. -/
def placed (reader : Reader α) : Reader α := fun cursor =>
  match reader cursor with
  | .ok a next => .ok a next
  | .error fault next =>
    .error { fault with place := some (fault.place.getD next.place) } next

/-- Reads with one reader and then with another that ends what the first began.  Where the first
refuses the text, the second still moves the cursor. -/
def endedBy (reader : Reader α) (ending : Reader Unit) : Reader α := fun cursor =>
  match reader cursor with
  | .ok a next => (ending.map fun _ => a) next
  | .error fault next =>
    match ending next with
    | .ok _ last => .error fault last
    | .error _ last => .error fault last

/-- The octet that comes next. -/
def peek? : Reader (Option UInt8) := fun cursor => .ok cursor.rest.head? cursor

/-- Moves past the octet that comes next. -/
def advance : Reader Unit := fun cursor => .ok () cursor.advance

/-- Takes the octet that comes next. -/
def next? : Reader (Option UInt8) := fun cursor => .ok cursor.rest.head? cursor.advance

/-- Takes octets as long as they are of a kind, onto those already taken, newest first. -/
def takeOnto (kind : UInt8 → Bool) (taken : Bytes) (place : Place) : Bytes → Bytes × Cursor
  | [] => (taken.reverse, ⟨place, []⟩)
  | b :: rest =>
    if kind b then takeOnto kind (b :: taken) (place.after b) rest
    else (taken.reverse, ⟨place, b :: rest⟩)

/-- Takes octets as long as they are of a kind. -/
def takeWhile (kind : UInt8 → Bool) : Reader Bytes := fun cursor =>
  let (taken, next) := takeOnto kind [] cursor.place cursor.rest
  .ok taken next

/-- Space, tab, newline and carriage return. -/
def isBlank (b : UInt8) : Bool := b == 0x20 || b == 0x09 || b == 0x0a || b == 0x0d

/-- A decimal digit. -/
def isDigit (b : UInt8) : Bool := 0x30 ≤ b && b ≤ 0x39

/-- Moves past white space and answers the octet after it. -/
def peekToken? : Reader (Option UInt8) := do
  let _ ← takeWhile isBlank
  peek?

/-- Takes the octets of a word. -/
def expectWord : List Char → Reader Unit
  | [] => pure ()
  | c :: rest => do
    match ← next? with
    | none => failHere .endInValue
    | some b => if b == c.toUInt8 then expectWord rest else failHere .expectedIdent

end Cellbook.Json
