/-!
# Shortest decimals

A binary floating-point number stands for every real that rounds to it.  `shortest?` finds, for a
finite nonzero number, the decimal with the fewest digits among those reals, and of several the one
nearest to the number itself.

The search is exact: the number and the ends of its interval are natural numbers over one power of
two, and for each count of digits only the two neighbours of the number on that decimal grid need
to be tested, because a grid point inside the interval has one of them between itself and the
number.
-/

namespace Cellbook.Decimal

/-- `coefficient × 10 ^ exponent`. -/
structure Numeral where
  coefficient : Nat
  exponent : Int
  deriving Repr, DecidableEq

/-- A finite nonzero magnitude and the interval of reals that round to it, as numerators over one
denominator; whether the ends belong to the interval. -/
structure Interval where
  low : Nat
  middle : Nat
  high : Nat
  denominator : Nat
  closed : Bool
  deriving Repr, DecidableEq

/-- Scales four numerators so that `numerator × 2 ^ power` has a natural denominator. -/
def Interval.scaled (low middle high : Nat) (power : Int) (closed : Bool) : Interval :=
  if power < 0 then ⟨low, middle, high, Nat.pow 2 (-power).toNat, closed⟩
  else
    let factor := Nat.pow 2 power.toNat
    ⟨low * factor, middle * factor, high * factor, 1, closed⟩

/-- The interval of a finite nonzero number, from the 64 bits of its representation. -/
def Interval.ofBits (bits : UInt64) : Interval :=
  let n := bits.toNat
  let biased := n / Nat.pow 2 52 % Nat.pow 2 11
  let fraction := n % Nat.pow 2 52
  let m := if biased == 0 then fraction else fraction + Nat.pow 2 52
  let power : Int := (if biased == 0 then 1 else biased : Nat) - 1075
  let below := if fraction == 0 && biased > 1 then 4 * m - 1 else 4 * m - 2
  Interval.scaled below (4 * m) (4 * m + 2) (power - 2) (m % 2 == 0)

/-- Counts the tenfold steps from `numerator` up to `denominator`, at most `steps`. -/
def tensBelow : Nat → Nat → Nat → Nat
  | 0, _, _ => 0
  | steps + 1, numerator, denominator =>
    if numerator < denominator then tensBelow steps (numerator * 10) denominator + 1 else 0

/-- The power of ten of the leading digit of `middle / denominator`. -/
def Interval.magnitude (i : Interval) : Int :=
  if i.denominator ≤ i.middle then
    ((Nat.toDigits 10 (i.middle / i.denominator)).length : Int) - 1
  else
    - (tensBelow 400 i.middle i.denominator : Int)

/-- Whether `coefficient × 10 ^ exponent` lies in the interval. -/
def Interval.admits (i : Interval) (d : Numeral) : Bool :=
  let scale := Nat.pow 10 d.exponent.natAbs
  let value := if d.exponent < 0 then d.coefficient * i.denominator
    else d.coefficient * scale * i.denominator
  let low := if d.exponent < 0 then i.low * scale else i.low
  let high := if d.exponent < 0 then i.high * scale else i.high
  if i.closed then low ≤ value && value ≤ high else low < value && value < high

/-- The two neighbours of the number among the multiples of `10 ^ exponent`, the nearer first; of
two equally near the one with an even coefficient. -/
def Interval.neighbours (i : Interval) (exponent : Int) : List Numeral :=
  let scale := Nat.pow 10 exponent.natAbs
  let numerator := if exponent < 0 then i.middle * scale else i.middle
  let denominator := if exponent < 0 then i.denominator else i.denominator * scale
  let below := numerator / denominator
  let twice := 2 * (numerator % denominator)
  if twice < denominator || (twice == denominator && below % 2 == 0) then
    [⟨below, exponent⟩, ⟨below + 1, exponent⟩]
  else
    [⟨below + 1, exponent⟩, ⟨below, exponent⟩]

/-- The first admitted neighbour on grids of `digits`, `digits + 1`, … digits; `remaining` bounds
how many grids are tried. -/
def Interval.search (i : Interval) : Nat → Nat → Option Numeral
  | 0, _ => none
  | remaining + 1, digits =>
    match (i.neighbours (i.magnitude - digits + 1)).find? i.admits with
    | some d => some d
    | none => i.search remaining (digits + 1)

/-- Drops the zeros at the end of a coefficient. -/
def Numeral.trim (d : Numeral) : Numeral :=
  let digits := Nat.toDigits 10 d.coefficient
  let kept := (digits.reverse.dropWhile (· == '0')).reverse
  let dropped := digits.length - kept.length
  if kept.isEmpty then ⟨0, 0⟩ else ⟨d.coefficient / Nat.pow 10 dropped, d.exponent + dropped⟩

/-- The shortest decimal that reads back as the finite nonzero number with these bits; seventeen
digits always suffice. -/
def shortest? (bits : UInt64) : Option Numeral :=
  ((Interval.ofBits bits).search 17 1).map Numeral.trim

end Cellbook.Decimal
