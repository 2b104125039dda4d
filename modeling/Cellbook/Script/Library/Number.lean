import Cellbook.Script.Operator
import Cellbook.Text.Case

/-!
# Functions on numbers and characters
-/

namespace Cellbook.Script.Library

/-- The whole part of a floating-point number, which must fit. -/
def truncated (x : Float) : Outcome Value :=
  if x > Float.ofInt Int64.maxValue.toInt || x < Float.ofInt Int64.minValue.toInt then
    .error (.arithmetic ("Integer overflow: to_int(" ++ Decimal.plain.write x ++ ")"))
  else .ok (.int x.toInt64)

/-- The whole part of a floating-point number, which keeps its sign. -/
def wholePart (x : Float) : Float := if x < 0 then x.ceil else x.floor

/-- The greater or the lesser of two values of a kind that is ordered. -/
def extreme? (greater : Bool) (a b : Value) : Option Value :=
  let choose {α : Type} (f : α → Value) (x y : α) (less : Bool) : Option Value :=
    some (f (if greater then (if less then y else x) else (if less then x else y)))
  let real (x y : Float) : Option Value :=
    some (.float (if greater then (if x ≥ y then x else y) else (if x ≤ y then x else y)))
  match a, b with
  | .int x, .int y => choose .int x y (x < y)
  | .float x, .float y => real x y
  | .int x, .float y => real (Integer.toReal x) y
  | .float x, .int y => real x (Integer.toReal y)
  | .char x, .char y => choose .char x y (x < y)
  | .text x, .text y => choose .text x y (x < y)
  | _, _ => none

/-- The single character that a case mapping has for another, or that one. -/
def mapped (mapping : Char → List Char) (c : Char) : Value :=
  match mapping c with
  | [d] => .char d
  | _ => .char c

/-- The properties of numbers; nothing where there is none. -/
def numberProperty? (name : String) (value : Value) : Option Value :=
  match name, value with
  | "floor", .float x => some (.float x.floor)
  | "ceiling", .float x => some (.float x.ceil)
  | "round", .float x => some (.float x.round)
  | "int", .float x => some (.float (wholePart x))
  | "fraction", .float x => some (.float (x - wholePart x))
  | "is_nan", .float x => some (.bool x.isNaN)
  | "is_finite", .float x => some (.bool x.isFinite)
  | "is_infinite", .float x => some (.bool x.isInf)
  | "is_zero", .float x => some (.bool (x == 0))
  | "is_zero", .int n => some (.bool (n == 0))
  | "is_odd", .int n => some (.bool (n % 2 != 0))
  | "is_even", .int n => some (.bool (n % 2 == 0))
  | _, _ => none

/-- The functions on numbers and characters; nothing where none fits. -/
def onNumber? (function : String) (arguments : List Value) : Option (Outcome Value) :=
  let done (value : Value) : Option (Outcome Value) := some (.ok value)
  match function, arguments with
  | "to_int", [.int n] => done (.int n)
  | "to_int", [.float x] => some (truncated x)
  | "to_int", [.char c] => done (.int (Int64.ofNat c.toNat))
  | "to_float", [.int n] => done (.float (Integer.toReal n))
  | "abs", [.int n] => some (if n < 0 then (Integer.negate n).map Value.int else .ok (.int n))
  | "abs", [.float x] => done (.float x.abs)
  | "min", [a, b] => (extreme? false a b).map .ok
  | "max", [a, b] => (extreme? true a b).map .ok
  | "sign", [.int n] => done (.int (if n < 0 then -1 else if n == 0 then 0 else 1))
  | "to_upper", [.char c] => done (mapped Text.upperChar c)
  | "to_lower", [.char c] => done (mapped Text.lowerChar c)
  | _, _ => none

end Cellbook.Script.Library
