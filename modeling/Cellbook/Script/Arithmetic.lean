import Cellbook.Script.Fault

/-!
# Arithmetic

Integers have 64 bits, and an operation whose result does not fit is a fault; shifts alone never
fail.  Floating-point operations are those of the machine, with the exact remainder; comparisons
take numbers for equal that are no further apart than `Real.tolerance`, relative to the greater of
them.
-/

namespace Cellbook.Script

/-- The outcome of a computation. -/
abbrev Outcome := Except Cause

namespace Integer

/-- A fault of an integer operation, told with its operands. -/
def fault {α : Type} (what : String) (x : Int64) (operator : String) (y : Int64) : Outcome α :=
  .error (.arithmetic
    (what ++ ": " ++ toString x.toInt ++ " " ++ operator ++ " " ++ toString y.toInt))

/-- A result that must fit. -/
def fitting (what : String) (x : Int64) (operator : String) (y : Int64) (result : Int) :
    Outcome Int64 :=
  if Int64.minValue.toInt ≤ result && result ≤ Int64.maxValue.toInt then .ok (Int64.ofInt result)
  else fault what x operator y

/-- The power of a number of magnitude above one never fits beyond the 64th. -/
def power (x y : Int64) : Outcome Int64 :=
  if y.toInt < 0 then fault "Integer raised to a negative power" x "**" y
  else if y.toInt ≥ Int.ofNat (Nat.pow 2 32) then fault "Exponential overflow" x "**" y
  else if x == 0 || x == 1 then .ok (if y == 0 then 1 else x)
  else if x == -1 then .ok (if y.toInt % 2 == 0 then 1 else -1)
  else if y.toInt > 64 then fault "Exponential overflow" x "**" y
  else fitting "Exponential overflow" x "**" y (Int.pow x.toInt y.toInt.toNat)

/-- Shifts to the left by a count that may be negative, for a shift to the right. -/
def shiftLeft (x : Int64) (count : Int) : Int64 :=
  if count < 0 then
    if count ≤ -64 then (if x < 0 then -1 else 0) else Int64.ofInt (x.toInt / Nat.pow 2 count.natAbs)
  else if count ≥ 64 then 0
  else Int64.ofInt (x.toInt * Nat.pow 2 count.toNat)

/-- The integer operators; nothing for a spelling that is none. -/
def operate? (operator : String) (x y : Int64) : Option (Outcome Value) :=
  let int (result : Outcome Int64) : Option (Outcome Value) := some (result.map Value.int)
  let bool (result : Bool) : Option (Outcome Value) := some (.ok (.bool result))
  match operator with
  | "+" => int (fitting "Addition overflow" x "+" y (x.toInt + y.toInt))
  | "-" => int (fitting "Subtraction overflow" x "-" y (x.toInt - y.toInt))
  | "*" => int (fitting "Multiplication overflow" x "*" y (x.toInt * y.toInt))
  | "/" =>
    if y == 0 then int (fault "Division by zero" x "/" y)
    else int (fitting "Division overflow" x "/" y (x.toInt.tdiv y.toInt))
  | "%" =>
    if y == 0 || (x == Int64.minValue && y == -1) then
      int (fault "Modulo division by zero or overflow" x "%" y)
    else int (.ok (Int64.ofInt (x.toInt.tmod y.toInt)))
  | "**" => int (power x y)
  | "<<" => int (.ok (shiftLeft x y.toInt))
  | ">>" => int (.ok (shiftLeft x (-y.toInt)))
  | "&" => int (.ok (x &&& y))
  | "|" => int (.ok (x ||| y))
  | "^" => int (.ok (x ^^^ y))
  | "==" => bool (x == y)
  | "!=" => bool (x != y)
  | "<" => bool (x < y)
  | "<=" => bool (x ≤ y)
  | ">" => bool (y < x)
  | ">=" => bool (y ≤ x)
  | ".." => some (.ok (.range x y false))
  | "..=" => some (.ok (.range x y true))
  | _ => none

/-- The negation of a number, which for the least one does not fit. -/
def negate (x : Int64) : Outcome Int64 :=
  if x == Int64.minValue then .error (.arithmetic ("Negation overflow: -" ++ toString x.toInt))
  else .ok (-x)

end Integer

namespace Real

/-- A finite magnitude as a natural number and a power of two. -/
def magnitude (x : Float) : Nat × Int :=
  let bits := x.toBits.toNat
  let biased : Nat := bits / Nat.pow 2 52 % Nat.pow 2 11
  let fraction : Nat := bits % Nat.pow 2 52
  if biased == 0 then (fraction, -1074) else (fraction + Nat.pow 2 52, (biased : Int) - 1075)

/-- The exact remainder of a division toward zero, with the sign of the dividend. -/
def remainder (x y : Float) : Float :=
  if x.isNaN || y.isNaN || x.isInf || y == 0 then 0.0 / 0.0
  else if y.isInf then x
  else
    let (m, p) := magnitude x
    let (n, q) := magnitude y
    let least := min p q
    let rest := (m * Nat.pow 2 (p - least).toNat) % (n * Nat.pow 2 (q - least).toNat)
    let result := (Float.ofNat rest).scaleB least
    if Decimal.isNegative x then -result else result

/-- The distance between one and the next number above it: numbers relatively closer than this count
as equal. -/
def tolerance : Float := 2.220446049250313e-16

/-- The magnitude that the distance of two numbers is measured by: that of the greater, or one where
their product vanishes or one of them is infinite. -/
def scale (x y : Float) : Float :=
  if x * y == 0 || x.isInf || y.isInf then 1
  else if x.abs < y.abs then y.abs else x.abs

/-- How far a number lies above another, in relation to their magnitude. -/
def excess (x y : Float) : Float := (x - y) / scale x y

/-- Whether two numbers count as equal. -/
def near (x y : Float) : Bool := (excess x y).abs ≤ tolerance

/-- The floating-point operators; nothing for a spelling that is none. -/
def operate? (operator : String) (x y : Float) : Option (Outcome Value) :=
  let float (result : Float) : Option (Outcome Value) := some (.ok (.float result))
  let bool (result : Bool) : Option (Outcome Value) := some (.ok (.bool result))
  match operator with
  | "+" => float (x + y)
  | "-" => float (x - y)
  | "*" => float (x * y)
  | "/" => float (x / y)
  | "%" => float (remainder x y)
  | "**" => float (x ^ y)
  | "==" => bool (near x y)
  | "!=" => bool ((excess x y).abs > tolerance)
  | "<" => bool (excess y x > tolerance)
  | "<=" => bool (excess x y ≤ tolerance)
  | ">" => bool (excess x y > tolerance)
  | ">=" => bool (excess y x ≤ tolerance)
  | _ => none

end Real

end Cellbook.Script
