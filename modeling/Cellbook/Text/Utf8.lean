/-!
# UTF-8

Bytes are lists of octets.  `encode` writes a text, `decode?` reads well-formed bytes only, and
`decodeLossy` reads any bytes: each maximal run that begins a character but does not finish it, and
each octet that begins none, becomes one replacement character.

* `pieces` reads octet by octet, carrying the open character; `decode?` and `decodeLossy` are both
  read off its answer, so they agree on well-formed input.
-/

namespace Cellbook

/-- A sequence of octets. -/
abbrev Bytes := List UInt8

namespace Text

/-- The UTF-8 form of a text. -/
def encode (text : String) : Bytes :=
  text.toList.flatMap String.utf8EncodeChar

/-- One piece of a byte sequence read as UTF-8. -/
inductive Piece where
  /-- A well-formed character. -/
  | char (c : Char)
  /-- A malformed run, replaced as one. -/
  | malformed
  deriving Repr, DecidableEq

/-- A character whose lead octet has been read: how many octets are missing, between which bounds
the next one must lie, and the bits gathered so far. -/
structure Pending where
  missing : Nat
  low : UInt8
  high : UInt8
  bits : Nat
  deriving Repr, DecidableEq

/-- What an octet at the start of a character does: finish a character, open one, or neither.  The
bounds on the octet after a lead exclude overlong forms, surrogates and what lies past U+10FFFF. -/
def begin (b : UInt8) : List Piece × Option Pending :=
  let n := b.toNat
  if n < 0x80 then ([.char (Char.ofNat n)], none)
  else if 0xc2 ≤ n && n ≤ 0xdf then ([], some ⟨1, 0x80, 0xbf, n % 0x20⟩)
  else if 0xe0 ≤ n && n ≤ 0xef then
    ([], some ⟨2, if n == 0xe0 then 0xa0 else 0x80, if n == 0xed then 0x9f else 0xbf, n % 0x10⟩)
  else if 0xf0 ≤ n && n ≤ 0xf4 then
    ([], some ⟨3, if n == 0xf0 then 0x90 else 0x80, if n == 0xf4 then 0x8f else 0xbf, n % 0x08⟩)
  else ([.malformed], none)

/-- What the next octet does to a reading in progress.  An octet that cannot continue the open
character ends it as malformed and then begins anew. -/
def advance (b : UInt8) : Option Pending → List Piece × Option Pending
  | none => begin b
  | some p =>
    if p.low ≤ b && b ≤ p.high then
      let bits := p.bits * 0x40 + b.toNat % 0x40
      if p.missing ≤ 1 then ([.char (Char.ofNat bits)], none)
      else ([], some ⟨p.missing - 1, 0x80, 0xbf, bits⟩)
    else (.malformed :: (begin b).1, (begin b).2)

/-- Reads bytes as a sequence of characters and malformed runs, from a reading in progress. -/
def pieces : Option Pending → Bytes → List Piece
  | none, [] => []
  | some _, [] => [.malformed]
  | state, b :: rest => (advance b state).1 ++ pieces (advance b state).2 rest

/-- The character of a piece, if it is one. -/
def Piece.char? : Piece → Option Char
  | .char c => some c
  | .malformed => none

/-- The character of a piece, malformed runs read as the replacement character. -/
def Piece.orReplacement : Piece → Char
  | .char c => c
  | .malformed => Char.ofNat 0xfffd

/-- The text that well-formed bytes spell, and nothing for any others. -/
def decode? (bytes : Bytes) : Option String :=
  ((pieces none bytes).mapM Piece.char?).map String.ofList

/-- The text that bytes spell, with every malformed run replaced. -/
def decodeLossy (bytes : Bytes) : String :=
  String.ofList ((pieces none bytes).map Piece.orReplacement)

end Text

end Cellbook
