import Cellbook.Decimal.Layout
import Cellbook.Script.Quotation

/-!
# Lexical structure

`tokenize` cuts a source text into placed tokens.  Blanks and comments go; a comment between `/*`
and `*/` may hold others.  A block embedded in a quotation is told by counting braces: the brace
that closes it resumes the quotation.  The list always ends with `Token.done`, and a lexical fault
ends it early.
-/

namespace Cellbook.Script

/-- Skips a comment of nested depth `depth`. -/
def skipBlockComment (depth : Nat) (position : Position) : List Char → Cursor
  | [] => ⟨[], position⟩
  | [c] => ⟨[], position.after c⟩
  | c :: d :: rest =>
    if c == '*' && d == '/' then
      if depth ≤ 1 then ⟨rest, (position.after c).after d⟩
      else skipBlockComment (depth - 1) ((position.after c).after d) rest
    else if c == '/' && d == '*' then
      skipBlockComment (depth + 1) ((position.after c).after d) rest
    else skipBlockComment depth (position.after c) (d :: rest)

/-- Skips to the next line, which begins after a line feed, a carriage return, or both in turn. -/
def skipLine (position : Position) : List Char → Cursor
  | [] => ⟨[], position⟩
  | c :: rest =>
    if c == '\n' then ⟨rest, position.nextLine⟩
    else if c == '\r' then
      ⟨if rest.head? == some '\n' then rest.drop 1 else rest, position.nextLine⟩
    else skipLine (position.after c) rest

/-- Whether a character separates tokens. -/
def isBlank (c : Char) : Bool :=
  c == ' ' || c == '\t' || c == '\n' || c == '\r' || c.toNat == 0x0c

/-- Whether a character starts a name. -/
def startsName (c : Char) : Bool := c.isAlpha || c == '_'

/-- Whether a character continues a name. -/
def continuesName (c : Char) : Bool := c.isAlphanum || c == '_'

/-- How far the scan of a number has come: what it may still hold. -/
inductive Numeral where
  /-- A point, an exponent, or a radix after a lone zero. -/
  | whole
  /-- An exponent. -/
  | fraction
  /-- Digits alone, after an exponent or in another radix. -/
  | digits (valid : Char → Bool)

namespace Numeral

/-- Whether a character is one of the digits. -/
def isDigit (c : Char) : Numeral → Bool
  | digits valid => valid c
  | _ => c.isDigit

/-- Whether a point may still come. -/
def takesPoint : Numeral → Bool
  | whole => true
  | _ => false

/-- Whether an exponent may still come. -/
def takesExponent : Numeral → Bool
  | digits _ => false
  | _ => true

/-- The digits that follow a letter for a radix after a lone zero. -/
def ofRadix? (c : Char) (taken : List Char) : Numeral → Option Numeral
  | whole =>
    if taken != ['0'] then none
    else if c == 'x' || c == 'X' then some (digits fun d => (hexValue? d).isSome)
    else if c == 'o' || c == 'O' || c == 'b' || c == 'B' then some (digits Char.isDigit)
    else none
  | _ => none

end Numeral

/-- The characters of a number from where it goes on, in reverse order after those in `taken`, and
how many characters they take up; separators count but are left out. -/
def scanNumber (numeral : Numeral) (taken : List Char) (length : Nat) :
    List Char → List Char × Nat
  | [] => (taken, length)
  | c :: rest =>
    if c == '_' then scanNumber numeral taken (length + 1) rest
    else if numeral.isDigit c then scanNumber numeral (c :: taken) (length + 1) rest
    else if c == '.' && numeral.takesPoint then
      match rest with
      | d :: _ =>
        if d.isDigit then scanNumber .fraction (c :: taken) (length + 1) rest
        else if d == '_' || d == '.' || startsName d then (taken, length)
        else scanNumber .fraction ('0' :: c :: taken) (length + 1) rest
      | [] => (taken, length)
    else if (c == 'e' || c == 'E') && numeral.takesExponent then
      match rest with
      | d :: rest =>
        if d.isDigit || d == '+' || d == '-' then
          scanNumber (.digits Char.isDigit) (d :: c :: taken) (length + 2) rest
        else (taken, length)
      | [] => (taken, length)
    else
      match numeral.ofRadix? c taken with
      | some numeral => scanNumber numeral (c :: taken) (length + 1) rest
      | none => (taken, length)

/-- The number that digits spell in a radix, if they are digits of it and fit 64 bits. -/
def radixValue? (radix : Nat) (digits : List Char) : Option Nat :=
  if digits.isEmpty then none
  else
    let value := digits.foldl (fun n c => n.bind fun n =>
      (hexValue? c).bind fun d => if d < radix then some (n * radix + d) else none) (some 0)
    value.filter (· < Nat.pow 2 64)

/-- The token of the characters of a number that stands at a place, `negative` after a sign.  A sign
before a radix leaves no number. -/
def numberToken (negative : Bool) (spelling : List Char) (position : Position) : Token :=
  let malformed (spelling : List Char) : Token :=
    .fault ⟨.malformedNumber (String.ofList spelling), some position⟩
  let inRadix (radix : Nat) (letter : Char) (digits : List Char) : Token :=
    if negative then malformed (letter :: digits)
    else
      match radixValue? radix digits with
      | some n => .int (Int64.ofNat n)
      | none => malformed digits
  match spelling with
  | '0' :: 'x' :: digits => inRadix 16 'x' digits
  | '0' :: 'X' :: digits => inRadix 16 'X' digits
  | '0' :: 'o' :: digits => inRadix 8 'o' digits
  | '0' :: 'O' :: digits => inRadix 8 'O' digits
  | '0' :: 'b' :: digits => inRadix 2 'b' digits
  | '0' :: 'B' :: digits => inRadix 2 'B' digits
  | _ =>
    let magnitude := Decimal.natOfDigits spelling
    let value : Int := if negative then -(magnitude : Int) else magnitude
    if spelling.all Char.isDigit && Int64.minValue.toInt ≤ value && value ≤ Int64.maxValue.toInt
    then .int (Int64.ofInt value)
    else
      match Decimal.readMagnitude? spelling with
      | some x => .float (if negative then -x else x)
      | none => malformed (if negative then '-' :: spelling else spelling)

/-- The token of the text between single quotes that open at a place. -/
def charToken (text : String) (position : Position) : Token :=
  match text.toList with
  | [c] => .char c
  | _ => .fault ⟨.malformedChar text, some position⟩

/-- Of the spellings that the text starts with, the longest. -/
def longestSpelling (rest : List Char) (spellings : List String) : String :=
  spellings.foldl (fun best s =>
    if best.length < s.length && s.toList.isPrefixOf rest then s else best) ""

/-- The symbol that the text starts with, and how long it is.  `!in` is one symbol only where no
longer word goes on. -/
def scanSymbol (rest : List Char) (position : Position) : Option (Token × Nat) :=
  let inUse := if (rest[3]?).any continuesName then symbols.filter (· != "!in") else symbols
  let used := longestSpelling rest inUse
  let kept := longestSpelling rest (reservedSymbols.map Prod.fst)
  if used.length < kept.length then
    match reservedSymbols.lookup kept with
    | some (some advice) => some (.fault ⟨.improper advice, some position⟩, kept.length)
    | _ => some (.reserved kept, kept.length)
  else if used.isEmpty then none
  else some (.symbol used, used.length)

/-- What a symbol does to the braces open in each embedded block, innermost first; `none` where it
closes the innermost block. -/
def countBraces (spelling : String) : List Nat → Option (List Nat)
  | [] => some []
  | n :: outer =>
    if spelling == "\x7b" || spelling == "#\x7b" then some ((n + 1) :: outer)
    else if spelling == "\x7d" then if n ≤ 1 then none else some ((n - 1) :: outer)
    else some (n :: outer)

/-- The token of the number that starts at a cursor, after its sign if it is `negative`, and where
the next token may start. -/
def scanNumeral (negative : Bool) (position : Position) (cursor : Cursor) : Token × Cursor :=
  let (spelling, length) := scanNumber .whole (cursor.rest.take 1) 1 (cursor.rest.drop 1)
  (numberToken negative spelling.reverse position, cursor.skip length)

/-- The token that starts at a cursor and where the next one may start; `none` for blanks and
comments.  A sign belongs to the number after it where an operand is `awaited`. -/
def scanToken (awaited : Bool) (cursor : Cursor) (c : Char) (rest : List Char) :
    Option Token × Cursor :=
  if isBlank c then (none, cursor.next)
  else if c == '/' && rest.head? == some '/' then (none, skipLine cursor.position cursor.rest)
  else if c == '/' && rest.head? == some '*' then
    (none, skipBlockComment 1 (cursor.skip 2).position (cursor.skip 2).rest)
  else if c.isDigit then
    let (token, after) := scanNumeral false cursor.position cursor
    (some token, after)
  else if c == '-' && awaited && rest.head?.any Char.isDigit then
    let (token, after) := scanNumeral true cursor.position cursor.next
    (some token, after)
  else if startsName c then
    let word := cursor.rest.takeWhile continuesName
    (some (.ofWord (String.ofList word) cursor.position), cursor.skip word.length)
  else
    match scanSymbol cursor.rest cursor.position with
    | some (token, length) => (some token, cursor.skip length)
    | none =>
      (some (.fault ⟨.unexpected (String.singleton c), some cursor.position⟩), cursor.next)

/-- The cursor after an opening backtick: a new line right there is no part of the text. -/
def insideBacktick (cursor : Cursor) : Cursor :=
  match cursor.rest with
  | '\r' :: '\n' :: rest | '\r' :: rest | '\n' :: rest => ⟨rest, cursor.position.nextLine⟩
  | _ => cursor

/-- The tokens from a cursor on.  `embedded` counts the braces open in each embedded block,
`awaited` tells whether an operand may come, and `fuel` bounds the number of steps. -/
def tokensFrom : Nat → List Nat → Bool → Cursor → List Placed
  | 0, _, _, cursor => [⟨.done, cursor.position⟩]
  | fuel + 1, embedded, awaited, cursor =>
    let stop (fault : SyntaxFault) : List Placed :=
      [⟨.fault fault, cursor.position⟩, ⟨.done, cursor.position⟩]
    let quoted (quote : Char) (start : Cursor) : List Placed :=
      match scanQuoted quote (some cursor.position) [] .plain start.position start.rest with
      | .fault fault => stop fault
      | .closed text true after =>
        ⟨.textBefore text, cursor.position⟩ :: tokensFrom fuel (0 :: embedded) false after
      | .closed text false after =>
        match if quote == '\'' then charToken text cursor.position else .text text with
        | .fault fault => stop fault
        | token => ⟨token, cursor.position⟩ :: tokensFrom fuel embedded false after
    let resumed (embedded : List Nat) (start : Cursor) : List Placed :=
      let opening := if start.rest.isEmpty then none else some start.position
      match scanQuoted '`' opening [] .plain start.position start.rest with
      | .fault fault => stop fault
      | .closed text true after =>
        ⟨.textBefore text, cursor.position⟩ :: tokensFrom fuel (0 :: embedded) false after
      | .closed text false after =>
        ⟨.text text, cursor.position⟩ :: tokensFrom fuel embedded false after
    match cursor.rest with
    | [] => [⟨.done, cursor.position⟩]
    | c :: rest =>
      if c == '\'' && rest.head? == some '\'' then
        stop ⟨.malformedChar "", some cursor.position⟩
      else if c == '"' || c == '\'' then quoted c cursor.next
      else if c == '`' then quoted c (insideBacktick cursor.next)
      else
        match rawSigns? cursor with
        | some signs =>
          let start := cursor.skip (signs.length + 1)
          match scanRaw signs cursor.position [] start.position start.rest with
          | .fault fault => stop fault
          | .closed text _ after =>
            ⟨.text text, cursor.position⟩ :: tokensFrom fuel embedded false after
        | none =>
          match scanToken awaited cursor c rest with
          | (none, after) => tokensFrom fuel embedded awaited after
          | (some (.fault fault), _) => stop fault
          | (some (.symbol spelling), after) =>
            ⟨.symbol spelling, cursor.position⟩ ::
              match countBraces spelling embedded with
              | some embedded =>
                tokensFrom fuel embedded (Token.awaitsOperand (.symbol spelling)) after
              | none => resumed (embedded.drop 1) after
          | (some token, after) =>
            ⟨token, cursor.position⟩ :: tokensFrom fuel embedded token.awaitsOperand after

/-- The tokens of a source text. -/
def tokenize (source : String) : List Placed :=
  let chars := source.toList
  tokensFrom (chars.length + 1) [] true ⟨chars, .start⟩

end Cellbook.Script
