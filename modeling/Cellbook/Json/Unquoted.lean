import Cellbook.Json.Cursor

/-!
# Contents of strings

Reads a string after its opening quote, octet by octet.  `StringState` is what the octets so far
have left open: nothing, an escape, the digits of a numbered escape, or the second half of a pair of
surrogates.

A string that is only passed over is held to less: its escapes must be well formed, but surrogates
need not pair up and the octets need not be UTF-8.
-/

namespace Cellbook.Json

/-- What the octets of a string have left open. -/
inductive StringState where
  /-- Nothing. -/
  | plain
  /-- An escape, after its backslash. -/
  | escape
  /-- A numbered escape: the first half of a pair of surrogates, if there was one, the number of
  digits missing, and the value of those read, if all were digits. -/
  | digits (lead : Option Nat) (missing : Nat) (value : Option Nat)
  /-- A pair of surrogates after its first half. -/
  | pair (lead : Nat)
  /-- A pair of surrogates after the backslash of its second half. -/
  | pairEscape (lead : Nat)
  deriving Repr, DecidableEq

/-- What an octet of a string does. -/
inductive StringStep where
  /-- Adds octets to the content. -/
  | next (state : StringState) (octets : Bytes)
  /-- Ends the string. -/
  | finished
  /-- Makes the string malformed. -/
  | failed (cause : Cause)
  deriving Repr, DecidableEq

/-- The value of a hexadecimal digit. -/
def hexValue? (b : UInt8) : Option Nat :=
  let n := b.toNat
  if 0x30 ≤ n && n ≤ 0x39 then some (n - 0x30)
  else if 0x41 ≤ n && n ≤ 0x46 then some (n - 0x37)
  else if 0x61 ≤ n && n ≤ 0x66 then some (n - 0x57)
  else none

/-- What an escape of one letter stands for. -/
def escapeValue? (b : UInt8) : Option UInt8 :=
  if b == '"'.toUInt8 || b == '\\'.toUInt8 || b == '/'.toUInt8 then some b
  else if b == 'b'.toUInt8 then some 0x08
  else if b == 'f'.toUInt8 then some 0x0c
  else if b == 'n'.toUInt8 then some 0x0a
  else if b == 'r'.toUInt8 then some 0x0d
  else if b == 't'.toUInt8 then some 0x09
  else none

/-- Whether a number is the first half of a pair of surrogates. -/
def isLead (n : Nat) : Bool := 0xd800 ≤ n && n ≤ 0xdbff

/-- Whether a number is the second half of a pair of surrogates. -/
def isTrail (n : Nat) : Bool := 0xdc00 ≤ n && n ≤ 0xdfff

/-- What the value of a numbered escape does. -/
def numbered (lead : Option Nat) (n : Nat) : StringStep :=
  match lead with
  | none =>
    if isTrail n then .failed .loneSurrogate
    else if isLead n then .next (.pair n) []
    else .next .plain (String.utf8EncodeChar (Char.ofNat n))
  | some first =>
    if isTrail n then
      .next .plain
        (String.utf8EncodeChar (Char.ofNat ((first - 0xd800) * 0x400 + (n - 0xdc00) + 0x10000)))
    else .failed .loneSurrogate

/-- What an octet does in a string whose content is read. -/
def StringState.step (b : UInt8) : StringState → StringStep
  | .plain =>
    if b == '"'.toUInt8 then .finished
    else if b == '\\'.toUInt8 then .next .escape []
    else if b < 0x20 then .failed .controlCharacter
    else .next .plain [b]
  | .escape =>
    if b == 'u'.toUInt8 then .next (.digits none 4 (some 0)) []
    else
      match escapeValue? b with
      | some octet => .next .plain [octet]
      | none => .failed .invalidEscape
  | .digits lead missing value =>
    let value := value.bind fun v => (hexValue? b).map (v * 16 + ·)
    if 1 < missing then .next (.digits lead (missing - 1) value) []
    else
      match value with
      | some n => numbered lead n
      | none => .failed .invalidEscape
  | .pair lead =>
    if b == '\\'.toUInt8 then .next (.pairEscape lead) [] else .failed .unfinishedSurrogates
  | .pairEscape lead =>
    if b == 'u'.toUInt8 then .next (.digits (some lead) 4 (some 0)) []
    else .failed .unfinishedSurrogates

/-- Reads a string up to its closing quote, onto the octets already read, newest first.  Octets that
are no text are refused at the closing quote. -/
def contentFrom (state : StringState) (read : Bytes) (place : Place) :
    Bytes → EStateM.Result Fault Cursor String
  | [] => .error ⟨.endInString, some place⟩ ⟨place, []⟩
  | b :: rest =>
    match state.step b with
    | .next state octets => contentFrom state (octets.reverse ++ read) (place.after b) rest
    | .failed cause => .error ⟨cause, some (place.after b)⟩ ⟨place.after b, rest⟩
    | .finished =>
      match Text.decode? read.reverse with
      | some content => .ok content ⟨place.after b, rest⟩
      | none => .error ⟨.invalidCodePoint, some place⟩ ⟨place.after b, rest⟩

/-- Reads a string after its opening quote. -/
def stringContent : Reader String := fun cursor => contentFrom .plain [] cursor.place cursor.rest

/-- What the octets of a string that is passed over have left open. -/
inductive SkippedState where
  | plain
  | escape
  | digits (missing : Nat) (wellFormed : Bool)
  deriving Repr, DecidableEq

/-- Passes over a string up to its closing quote. -/
def skipStringFrom (state : SkippedState) (place : Place) :
    Bytes → EStateM.Result Fault Cursor Unit
  | [] => .error ⟨.endInString, some place⟩ ⟨place, []⟩
  | b :: rest =>
    let after := place.after b
    match state with
    | .plain =>
      if b == '"'.toUInt8 then .ok () ⟨after, rest⟩
      else if b == '\\'.toUInt8 then skipStringFrom .escape after rest
      else if b < 0x20 then .error ⟨.controlCharacter, some place⟩ ⟨place, b :: rest⟩
      else skipStringFrom .plain after rest
    | .escape =>
      if b == 'u'.toUInt8 then skipStringFrom (.digits 4 true) after rest
      else if (escapeValue? b).isSome then skipStringFrom .plain after rest
      else .error ⟨.invalidEscape, some after⟩ ⟨after, rest⟩
    | .digits missing wellFormed =>
      let wellFormed := wellFormed && (hexValue? b).isSome
      if 1 < missing then skipStringFrom (.digits (missing - 1) wellFormed) after rest
      else if wellFormed then skipStringFrom .plain after rest
      else .error ⟨.invalidEscape, some after⟩ ⟨after, rest⟩

/-- Passes over a string after its opening quote. -/
def skipString : Reader Unit := fun cursor => skipStringFrom .plain cursor.place cursor.rest

end Cellbook.Json
