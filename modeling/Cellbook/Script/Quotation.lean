import Cellbook.Script.Token
import Cellbook.Text.Property

/-!
# Quotations

The text between quotes in a script.  Three quotes share one scanner: the double quote and the
single quote know escapes, the backtick takes everything as it stands and may embed blocks.  A
quote written twice stands for itself in all of them.  A double quote after number signs takes
everything as it stands up to a double quote before as many of them.
-/

namespace Cellbook.Script

/-- A place in a source text and the characters from there on. -/
structure Cursor where
  rest : List Char
  position : Position
  deriving Repr

namespace Cursor

/-- The cursor one character further on. -/
def next (cursor : Cursor) : Cursor :=
  match cursor.rest with
  | [] => cursor
  | c :: rest => ⟨rest, cursor.position.after c⟩

/-- The cursor `n` characters further on. -/
def skip : Nat → Cursor → Cursor
  | 0, cursor => cursor
  | n + 1, cursor => skip n cursor.next

end Cursor

/-- The value of a hexadecimal digit. -/
def hexValue? (c : Char) : Option Nat :=
  if c.isDigit then some (c.toNat - '0'.toNat)
  else if 'a' ≤ c && c ≤ 'f' then some (c.toNat - 'a'.toNat + 10)
  else if 'A' ≤ c && c ≤ 'F' then some (c.toNat - 'A'.toNat + 10)
  else none

/-- What has been read of an escape, or how the next character is to be taken. -/
inductive Quoting where
  /-- As itself. -/
  | plain
  /-- After a backslash. -/
  | escaped
  /-- As one of `missing` hexadecimal digits; `seen` is what has been read, latest first. -/
  | digits (seen : List Char) (missing value : Nat)
  /-- As the second of two quotes, already taken. -/
  | doubled
  /-- As itself, except that white space left of a column is left out. -/
  | continued (column : Nat)
  deriving Repr

/-- The outcome of scanning a quotation. -/
inductive Quotation where
  /-- Its text, and where the scan goes on; `embeds` when a block follows there. -/
  | closed (text : String) (embeds : Bool) (cursor : Cursor)
  | fault (fault : SyntaxFault)
  deriving Repr

/-- The control character that an escape letter stands for. -/
def escapeLetter? (c : Char) : Option Char :=
  if c == 'n' then some '\n' else if c == 'r' then some '\r' else if c == 't' then some '\t'
  else if c == '\\' then some '\\' else none

/-- How many hexadecimal digits follow an escape letter. -/
def escapeDigits? (c : Char) : Option Nat :=
  if c == 'x' then some 2 else if c == 'u' then some 4 else if c == 'U' then some 8 else none

/-- The character with a code, if there is one. -/
def charOfCode? (n : Nat) : Option Char :=
  if n < 0xd800 || (0xe000 ≤ n && n < 0x110000) then some (Char.ofNat n) else none

/-- Scans what follows an opening quote.  A text without an end is told by the place `opening`, if
it has one; `taken` is the text so far, latest first. -/
def scanQuoted (quote : Char) (opening : Option Position) (taken : List Char) (state : Quoting)
    (position : Position) : List Char → Quotation
  | [] =>
    match state with
    | .digits seen _ _ =>
      .fault ⟨.malformedEscape (String.ofList seen.reverse), some position.previous⟩
    | _ => .fault ⟨.unterminatedText, opening⟩
  | c :: rest =>
    let malformed (spelling : List Char) : Quotation :=
      .fault ⟨.malformedEscape (String.ofList spelling), some position⟩
    let proceed (taken : List Char) (state : Quoting) : Quotation :=
      scanQuoted quote opening taken state (position.after c) rest
    match state with
    | .doubled => proceed taken .plain
    | .digits seen missing value =>
      match hexValue? c with
      | none => malformed (c :: seen).reverse
      | some digit =>
        let value := value * 16 + digit
        if missing ≤ 1 then
          match charOfCode? value with
          | some decoded => proceed (decoded :: taken) .plain
          | none => malformed (c :: seen).reverse
        else proceed taken (.digits (c :: seen) (missing - 1) value)
    | .escaped =>
      match escapeLetter? c, escapeDigits? c with
      | some decoded, _ => proceed (decoded :: taken) .plain
      | none, some count => proceed taken (.digits [c, '\\'] count 0)
      | none, none =>
        if c == quote then proceed (c :: taken) .plain
        else if c == '\r' && rest.head? == some '\n' then proceed taken .escaped
        else if c == '\n' && quote == '"' then
          proceed taken (.continued (opening.elim 1 Position.column))
        else if c == '\n' then .fault ⟨.unterminatedText, opening⟩
        else malformed ['\\', c]
    | .plain | .continued _ =>
      if quote == '`' && c == '$' && rest.head? == some '\x7b' then
        .closed (String.ofList taken.reverse) true ⟨rest, position.after c⟩
      else if c == '\r' && rest.head? == some '\n' then proceed taken state
      else if c == '\\' && quote != '`' then proceed taken .escaped
      else if c == quote then
        if rest.head? == some quote then proceed (c :: taken) .doubled
        else .closed (String.ofList taken.reverse) false ⟨rest, position.after c⟩
      else if c == '\n' && quote != '`' then .fault ⟨.unterminatedText, opening⟩
      else
        match state with
        | .continued column =>
          if Text.isWhiteSpace c && position.column < column + 1 then proceed taken state
          else proceed (c :: taken) .plain
        | _ => proceed (c :: taken) .plain

/-- Scans what follows the quote that opens a raw text after `signs`; its end is a quote that as
many follow. -/
def scanRaw (signs : List Char) (opening : Position) (taken : List Char) (position : Position) :
    List Char → Quotation
  | [] => .fault ⟨.unterminatedText, some opening⟩
  | c :: rest =>
    if c == '"' && signs.isPrefixOf rest then
      .closed (String.ofList taken.reverse) false
        (Cursor.skip (signs.length + 1) ⟨c :: rest, position⟩)
    else scanRaw signs opening (c :: taken) (position.after c) rest

/-- The number signs that open a raw text at a cursor, if one stands there. -/
def rawSigns? (cursor : Cursor) : Option (List Char) :=
  let signs := cursor.rest.takeWhile (· == '#')
  if !signs.isEmpty && (cursor.rest.drop signs.length).head? == some '"' then some signs else none

end Cellbook.Script
