/-!
# Values of arguments

Reads the numbers that arguments take: decimal digits, with a plus sign in front if wanted, and a
minus sign where negative numbers are read.
-/

namespace Cellbook.CommandLine

/-- Why a text is no number. -/
inductive NumberFault where
  | empty
  | invalidDigit
  | tooLarge
  | tooSmall
  /-- A number beyond the largest admitted. -/
  | outOfRange (value : Int) (last : Nat)
  deriving Repr, DecidableEq

/-- The message of a fault. -/
def NumberFault.message : NumberFault → String
  | .empty => "cannot parse integer from empty string"
  | .invalidDigit => "invalid digit found in string"
  | .tooLarge => "number too large to fit in target type"
  | .tooSmall => "number too small to fit in target type"
  | .outOfRange value last => toString value ++ " is not in 0..=" ++ toString last

/-- Reads digits onto a number that may grow up to `last`; `beyond` is the fault past that. -/
def digitsOnto (last : Nat) (beyond : NumberFault) : Nat → List Char → Except NumberFault Nat
  | value, [] => .ok value
  | value, c :: rest =>
    if c.isDigit then
      let next := value * 10 + (c.toNat - '0'.toNat)
      if last < next then .error beyond else digitsOnto last beyond next rest
    else .error .invalidDigit

/-- Reads digits, of which there is at least one. -/
def digits (last : Nat) (beyond : NumberFault) : List Char → Except NumberFault Nat
  | [] => .error .invalidDigit
  | text => digitsOnto last beyond 0 text

/-- Reads a number without a minus sign, up to `last`. -/
def readNatural (last : Nat) (text : List Char) : Except NumberFault Nat :=
  match text with
  | [] => .error .empty
  | '+' :: rest => digits last .tooLarge rest
  | text => digits last .tooLarge text

/-- The largest signed number. -/
def lastSigned : Nat := Nat.pow 2 63 - 1

/-- The largest unsigned number. -/
def lastUnsigned : Nat := Nat.pow 2 64 - 1

/-- Reads a number with or without a sign. -/
def readSigned (text : List Char) : Except NumberFault Int :=
  match text with
  | '-' :: rest => (digits (lastSigned + 1) .tooSmall rest).map fun value => -(value : Int)
  | text => (readNatural lastSigned text).map Int.ofNat

/-- Reads a number from zero up to `last`, which is told if the number is not. -/
def readWithin (last : Nat) (text : List Char) : Except NumberFault Nat :=
  match readSigned text with
  | .error fault => .error fault
  | .ok value =>
    if 0 ≤ value ∧ value ≤ last then .ok value.toNat else .error (.outOfRange value last)

/-- The largest port. -/
def lastPort : Nat := 65535

end Cellbook.CommandLine
