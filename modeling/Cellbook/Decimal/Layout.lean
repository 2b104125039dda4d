import Cellbook.Decimal.Shortest

/-!
# Layouts of decimals

How the shortest decimal of a floating-point number is written out.  A `Layout` decides which
numbers carry a power of ten and how it is spelled, whether a whole number ends in a point and a
zero, and whether zero keeps its sign; everything else is common to all layouts.  `parse?` reads a
decimal back.
-/

namespace Cellbook.Decimal

/-- The choices of a written form. -/
structure Layout where
  /-- Which numbers are written with a power of ten. -/
  scientific : Float → Bool
  /-- Whether a whole number written without a power of ten ends in `.0`. -/
  pointed : Bool
  /-- Whether the zero below zero is told apart. -/
  signedZero : Bool
  /-- What stands before a power of ten above zero. -/
  plus : List Char := []

/-- Digits with a point after the first `whole` of them; nothing before the point reads as zero. -/
def positional (digits : List Char) (whole : Int) (pointed : Bool) : List Char :=
  if whole ≤ 0 then
    ['0', '.'] ++ List.replicate whole.natAbs '0' ++ digits
  else if (digits.length : Int) ≤ whole then
    digits ++ List.replicate (whole.toNat - digits.length) '0' ++ (if pointed then ['.', '0'] else [])
  else
    digits.take whole.toNat ++ '.' :: digits.drop whole.toNat

/-- Digits with a point after the first of them and a power of ten. -/
def Layout.withPower (layout : Layout) (digits : List Char) (whole : Int) : List Char :=
  let power := whole - 1
  let written := Nat.toDigits 10 power.natAbs
  digits.take 1 ++ (if digits.length ≤ 1 then [] else '.' :: digits.drop 1) ++
    'e' :: (if power < 0 then ['-'] else layout.plus) ++ written

/-- The magnitude of a finite nonzero number. -/
def Layout.magnitude (layout : Layout) (x : Float) : List Char :=
  match shortest? x.toBits with
  | none => []
  | some d =>
    let digits := Nat.toDigits 10 d.coefficient
    let whole := (digits.length : Int) + d.exponent
    if layout.scientific x.abs then layout.withPower digits whole
    else positional digits whole layout.pointed

/-- Whether the bits of a number have the sign set. -/
def isNegative (x : Float) : Bool := x.toBits.toNat ≥ Nat.pow 2 63

/-- The written form of a number. -/
def Layout.write (layout : Layout) (x : Float) : String :=
  let sign := if isNegative x then "-" else ""
  if x.isNaN then "NaN"
  else if x.isInf then sign ++ "inf"
  else if x == 0 then
    (if layout.signedZero then sign else "") ++ (if layout.pointed then "0.0" else "0")
  else sign ++ String.ofList (layout.magnitude x)

/-- Never a power of ten, and whole numbers bare. -/
def plain : Layout := { scientific := fun _ => false, pointed := false, signedZero := true }

/-- A point always, and a power of ten from `10 ^ 16` up and below `10 ^ -4`. -/
def exact : Layout :=
  { scientific := fun x => x < 1e-4 || x ≥ 1e16, pointed := true, signedZero := true }

/-- A point always, a power of ten outside the numbers that single precision has nearest to
`10 ^ 13` and `10 ^ -13`, and zero without a sign. -/
def display : Layout :=
  { scientific := fun x => x > 9999999827968.0 || x < 9.9999998245167004e-14, pointed := true,
    signedZero := false }

/-- A point always, and a signed power of ten from `10 ^ 16` up and below `10 ^ -5`. -/
def signedPower : Layout :=
  { scientific := fun x => x < 1e-5 || x ≥ 1e16, pointed := true, signedZero := true,
    plus := ['+'] }

/-- The value of a run of decimal digits. -/
def natOfDigits (digits : List Char) : Nat :=
  digits.foldl (fun n c => n * 10 + (c.toNat - '0'.toNat)) 0

/-- The number `digits × 10 ^ exponent`, rounded to nearest. -/
def ofScientific (coefficient : Nat) (exponent : Int) : Float :=
  if coefficient == 0 then 0.0
  else if exponent < 0 then Float.ofScientific coefficient true exponent.natAbs
  else Float.ofScientific coefficient false exponent.natAbs

/-- Reads an exponent after its letter: an optional sign and at least one digit, to the end. -/
def readExponent? (text : List Char) : Option Int :=
  let (negative, digits) :=
    match text with
    | '-' :: rest => (true, rest)
    | '+' :: rest => (false, rest)
    | rest => (false, rest)
  if digits.isEmpty || !digits.all Char.isDigit then none
  else
    let n : Int := natOfDigits digits
    some (if negative then -n else n)

/-- An exponent too far out to matter is cut, so that no power of that size is ever formed. -/
def clampExponent (digits : Nat) (exponent : Int) : Int :=
  if exponent > 400 then 400 else if exponent < -(400 + digits : Nat) then -(400 + digits : Nat)
  else exponent

/-- Reads an unsigned decimal: digits, an optional point with digits on at least one side, and an
optional power of ten. -/
def readMagnitude? (text : List Char) : Option Float :=
  let whole := text.takeWhile Char.isDigit
  let rest := text.dropWhile Char.isDigit
  let (fraction, rest) :=
    match rest with
    | '.' :: r => (r.takeWhile Char.isDigit, r.dropWhile Char.isDigit)
    | r => ([], r)
  if whole.isEmpty && fraction.isEmpty then none
  else
    let power :=
      match rest with
      | [] => some 0
      | c :: r => if c == 'e' || c == 'E' then readExponent? r else none
    power.map fun p =>
      let digits := whole ++ fraction
      ofScientific (natOfDigits digits)
        (clampExponent digits.length (p - fraction.length))

/-- Reads a decimal with an optional sign, or one of the names of infinity and not-a-number. -/
def parse? (text : String) : Option Float :=
  let (negative, rest) :=
    match text.toList with
    | '-' :: r => (true, r)
    | '+' :: r => (false, r)
    | r => (false, r)
  let name := String.ofList (rest.map Char.toLower)
  let magnitude :=
    if name == "inf" || name == "infinity" then some (1.0 / 0.0)
    else if name == "nan" then some (0.0 / 0.0)
    else readMagnitude? rest
  magnitude.map fun x => if negative then -x else x

end Cellbook.Decimal
