import Cellbook.Decimal.Layout
import Cellbook.Json.Cursor

/-!
# Numbers

Reads numbers.  A number without point and exponent is whole while it fits 64 bits; every other
number is taken from its leading digits, as many as fit 64 bits, and a power of ten, and has to be
finite.
-/

namespace Cellbook.Json

/-- A number of a JSON text. -/
inductive Number where
  /-- A whole number not below zero. -/
  | natural (value : Nat)
  /-- A whole number below zero, by its size. -/
  | negative (size : Nat)
  | real (value : Float)

/-- What a number is called where it is not expected. -/
def Number.found : Number → Found
  | .natural value => .integer value
  | .negative size => .integer (-(size : Int))
  | .real value => .real (Decimal.signedPower.write value)

/-- The largest number of 64 bits. -/
def maxNatural : Nat := Nat.pow 2 64 - 1

/-- The value of a decimal digit. -/
def digitValue (b : UInt8) : Nat := b.toNat - 0x30

/-- Appends digits to a number while it fits 64 bits; answers the number and how many digits were
left over. -/
def appendDigits (value : Nat) : Bytes → Nat × Nat
  | [] => (value, 0)
  | b :: rest =>
    let longer := value * 10 + digitValue b
    if longer ≤ maxNatural then appendDigits longer rest else (value, rest.length + 1)

/-- The number `value × 10 ^ power` by one multiplication or division of floating-point numbers; by
several divisions where the power is too small for one.  Nothing where it is not finite. -/
def scale? (fuel : Nat) (value : Float) (power : Int) : Option Float :=
  if power.natAbs ≤ 308 then
    let unit := Decimal.ofScientific 1 power.natAbs
    if 0 ≤ power then
      let scaled := value * unit
      if scaled.isInf then none else some scaled
    else some (value / unit)
  else if value == 0 then some value
  else if 0 ≤ power then none
  else
    match fuel with
    | 0 => some 0
    | fuel + 1 => scale? fuel (value / 1e308) (power + 308)

/-- The power of ten of a number, as read. -/
structure Power where
  negative : Bool
  digits : Bytes

/-- The parts of a number, as read. -/
structure Numeral where
  negative : Bool
  whole : Bytes
  fraction : Option Bytes
  power : Option Power

/-- The largest power of ten that is told from one that is out of range. -/
def maxPower : Nat := Nat.pow 2 31 - 1

/-- The number of leading digits after which a power of ten is out of range. -/
def powerOverflow? (value taken : Nat) : Bytes → Option Nat
  | [] => none
  | b :: rest =>
    let longer := value * 10 + digitValue b
    if longer ≤ maxPower then powerOverflow? longer (taken + 1) rest else some (taken + 1)

/-- A number with the sign asked for. -/
def signed (negative : Bool) (value : Float) : Float := if negative then -value else value

/-- The value of a number.  A number too large has none; the answer is then how many digits of its
power have not been looked at. -/
def Numeral.value (numeral : Numeral) : Except Nat Number :=
  let (significand, dropped) := appendDigits 0 numeral.whole
  let (significand, kept) :=
    match numeral.fraction with
    | none => (significand, 0)
    | some fraction =>
      let (longer, left) := appendDigits significand fraction
      (longer, fraction.length - left)
  let base : Int := (dropped : Int) - kept
  let real (power : Int) : Except Nat Number :=
    match scale? 16 (UInt64.ofNat significand).toFloat
        (if power < -4000 then -4000 else power) with
    | some value => .ok (.real (signed numeral.negative value))
    | none => .error 0
  match numeral.power with
  | some power =>
    match powerOverflow? 0 0 power.digits with
    | some taken =>
      if significand != 0 && !power.negative then .error (power.digits.length - taken)
      else .ok (.real (signed numeral.negative 0))
    | none =>
      let size := power.digits.foldl (fun n b => n * 10 + digitValue b) 0
      real (if power.negative then base - size else base + size)
  | none =>
    if dropped != 0 || numeral.fraction.isSome then real base
    else if !numeral.negative then .ok (.natural significand)
    else if 0 < significand && significand ≤ Nat.pow 2 63 then .ok (.negative significand)
    else .ok (.real (signed true (UInt64.ofNat significand).toFloat))

/-- Reads the digits after a point; `ending` is the cause where the text ends instead. -/
def fractionDigits (ending : Cause) : Reader (Option Bytes) := do
  match ← peek? with
  | some b =>
    if b == '.'.toUInt8 then
      advance
      let digits ← takeWhile isDigit
      if digits.isEmpty then
        match ← peek? with
        | some _ => failAhead .invalidNumber
        | none => failAhead ending
      pure (some digits)
    else pure none
  | none => pure none

/-- Reads a power of ten; `ending` is the cause where the text ends instead of a digit. -/
def power (ending : Cause) : Reader (Option Power) := do
  match ← peek? with
  | some b =>
    if b == 'e'.toUInt8 || b == 'E'.toUInt8 then
      advance
      let sign ← peek?
      if sign == some '+'.toUInt8 || sign == some '-'.toUInt8 then advance
      match ← next? with
      | none => failHere ending
      | some first =>
        if isDigit first then
          let digits ← takeWhile isDigit
          pure (some ⟨sign == some '-'.toUInt8, first :: digits⟩)
        else failHere .invalidNumber
    else pure none
  | none => pure none

/-- Reads the parts of a number after its sign; `ending` is the cause where the text ends in the
middle of it. -/
def numeral (ending : Cause) (negative : Bool) : Reader Numeral := do
  match ← next? with
  | none => failHere ending
  | some first =>
    if !isDigit first then failHere .invalidNumber
    let more ← if first == '0'.toUInt8 then pure [] else takeWhile isDigit
    if first == '0'.toUInt8 && (← peek?).any isDigit then failAhead .invalidNumber
    let fraction ← fractionDigits ending
    let power ← power ending
    pure ⟨negative, first :: more, fraction, power⟩

/-- Reads a number after its sign. -/
def number (negative : Bool) : Reader Number := do
  let numeral ← numeral .endInValue negative
  match numeral.value with
  | .ok value => pure value
  | .error unread =>
    let place := (← get).place
    throw ⟨.numberOutOfRange, some { place with column := place.column - unread }⟩

/-- Passes over a number after its sign. -/
def skipNumber (negative : Bool) : Reader Unit := do
  let _ ← numeral .invalidNumber negative

end Cellbook.Json
