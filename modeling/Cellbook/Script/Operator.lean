import Cellbook.Script.Arithmetic

/-!
# Operators

What the operators do on values of every type.  Numbers of the two kinds mix; a text and anything
else are joined as text; values of different types are different.  Where no rule applies, the
operator is a function that does not exist.
-/

namespace Cellbook.Script

/-- The signature of a call as the message of an unknown function tells it. -/
def signature (function : String) (arguments : List Value) : String :=
  function ++ " (" ++ ", ".intercalate (arguments.map Value.argumentTypeName) ++ ")"

/-- The fault of a call of an unknown function. -/
def unknown {α : Type} (function : String) (arguments : List Value) : Outcome α :=
  .error (.functionNotFound (signature function arguments))

/-- A whole number as a floating-point number. -/
def Integer.toReal (n : Int64) : Float := Float.ofInt n.toInt

/-- The text without any occurrence of another text. -/
def without (text removed : String) : String :=
  if removed.isEmpty then text else text.replace removed ""

namespace Value

/-- The text that a text or a character is. -/
def asText? : Value → Option String
  | text s => some s
  | char c => some (String.singleton c)
  | _ => none

/-- The text that a value adds to a text: its printed form, or the characters that octets spell. -/
def joined : Value → String
  | blob octets => Text.decodeLossy octets
  | value => value.printed

mutual

/-- Whether two values are equal. -/
def equal : Value → Value → Outcome Bool
  | unit, unit => .ok true
  | bool a, bool b => .ok (a == b)
  | int a, int b => .ok (a == b)
  | float a, float b => .ok (Real.near a b)
  | int a, float b => .ok (Real.near (Integer.toReal a) b)
  | float a, int b => .ok (Real.near a (Integer.toReal b))
  | char a, char b => .ok (a == b)
  | text a, text b => .ok (a == b)
  | char a, text b | text b, char a => .ok (String.singleton a == b)
  | array a, array b => if a.length == b.length then equalItems a b else .ok false
  | blob a, blob b => .ok (a == b)
  | map a, map b => if a.length == b.length then equalEntries a b else .ok false
  | range a b c, range a' b' c' => .ok (a == a' && b == b' && c == c')
  | function a as, function b bs => unknown "==" [.function a as, .function b bs]
  | rich a, rich b => unknown "==" [.rich a, .rich b]
  | _, _ => .ok false

/-- Whether the items of two arrays are equal, up to the first that differ. -/
def equalItems : List Value → List Value → Outcome Bool
  | a :: as, b :: bs =>
    match equal a b with
    | .ok true => equalItems as bs
    | outcome => outcome
  | _, _ => .ok true

/-- Whether the entries of two maps are equal, up to the first that differ. -/
def equalEntries : List (String × Value) → List (String × Value) → Outcome Bool
  | (k, a) :: as, (l, b) :: bs =>
    if k == l then
      match equal a b with
      | .ok true => equalEntries as bs
      | outcome => outcome
    else .ok false
  | _, _ => .ok true

end

mutual

/-- Whether two values are the same: of one type, and alike in every part. -/
def same : Value → Value → Bool
  | unit, unit => true
  | bool a, bool b => a == b
  | int a, int b => a == b
  | float a, float b => a.toBits == b.toBits
  | char a, char b => a == b
  | text a, text b => a == b
  | array a, array b => sameItems a b
  | blob a, blob b => a == b
  | map a, map b => sameEntries a b
  | range a b c, range a' b' c' => a == a' && b == b' && c == c'
  | _, _ => false

/-- Whether two arrays have the same items. -/
def sameItems : List Value → List Value → Bool
  | [], [] => true
  | a :: as, b :: bs => same a b && sameItems as bs
  | _, _ => false

/-- Whether two maps have the same entries. -/
def sameEntries : List (String × Value) → List (String × Value) → Bool
  | [], [] => true
  | (k, a) :: as, (l, b) :: bs => k == l && same a b && sameEntries as bs
  | _, _ => false

end

/-- Whether a value is of a type that the operators know nothing about. -/
def isForeign : Value → Bool
  | range .. | rich _ => true
  | _ => false

end Value

/-- The result of an ordering operator, from that of a comparison. -/
def ordered? (operator : String) (less equal : Bool) : Option Bool :=
  match operator with
  | "<" => some less
  | "<=" => some (less || equal)
  | ">" => some (!less && !equal)
  | ">=" => some !less
  | _ => none

/-- Whether an operator orders its operands. -/
def isOrdering (operator : String) : Bool := ["<", "<=", ">", ">="].contains operator

/-- The operators on texts and characters. -/
def textOperate? (operator : String) (a b : String) : Option Value :=
  match operator with
  | "+" => some (.text (a ++ b))
  | "-" => some (.text (without a b))
  | _ => (ordered? operator (a < b) (a == b)).map Value.bool

/-- The operators on values of one type that is no number. -/
def alikeOperate? (operator : String) (a b : Value) : Option Value :=
  match a, b with
  | .bool x, .bool y =>
    match operator with
    | "&" => some (.bool (x && y))
    | "|" => some (.bool (x || y))
    | "^" => some (.bool (x != y))
    | _ => (ordered? operator (!x && y) (x == y)).map Value.bool
  | .array x, .array y => if operator == "+" then some (.array (x ++ y)) else none
  | .blob x, .blob y => if operator == "+" then some (.blob (x ++ y)) else none
  | .map x, .map _ =>
    if operator == "+" then
      match b with
      | .map y => some (.ofEntries (x ++ y))
      | _ => none
    else none
  | .unit, .unit => if isOrdering operator then some (.bool false) else none
  | _, _ => none

/-- Whether two values have the same type. -/
def sameType (a b : Value) : Bool := a.typeName == b.typeName

/-- Whether values differ in type in a way that the operators know about. -/
def knownApart (a b : Value) : Bool := !sameType a b && !(a.isForeign && b.isForeign)

/-- The operators on values of any types, numbers apart. -/
def mixedOperate (operator : String) (a b : Value) : Outcome Value :=
  if operator == "==" then
    if sameType a b || knownApart a b then (a.equal b).map Value.bool else unknown operator [a, b]
  else if operator == "!=" then
    match a, b with
    | .rich _, .rich _ | .function _ _, .function _ _ => unknown operator [a, b]
    | _, _ => (a.equal b).map fun same => .bool !same
  else
    match a.asText?, b.asText? with
    | some x, some y =>
      match a, b, operator with
      | .char _, .char _, "-" | .char _, .text _, "-" => unknown operator [a, b]
      | _, _, _ => (textOperate? operator x y).elim (unknown operator [a, b]) .ok
    | _, _ =>
      match a, b, operator with
      | .blob octets, .char c, "+" => .ok (.blob (octets ++ Text.encode (String.singleton c)))
      | .text x, y, "+" => .ok (.text (x ++ y.joined))
      | x, .text y, "+" => .ok (.text (x.joined ++ y))
      | _, _, _ =>
        match alikeOperate? operator a b with
        | some value => .ok value
        | none =>
          if isOrdering operator && knownApart a b then .ok (.bool false)
          else unknown operator [a, b]

/-- The binary operators. -/
def binaryOperate (operator : String) (a b : Value) : Outcome Value :=
  let numeric :=
    match a, b with
    | .int x, .int y => Integer.operate? operator x y
    | .float x, .int y => Real.operate? operator x (Integer.toReal y)
    | .int x, .float y => Real.operate? operator (Integer.toReal x) y
    | .float x, .float y => Real.operate? operator x y
    | _, _ => none
  numeric.getD (mixedOperate operator a b)

/-- The prefix operators. -/
def unaryOperate (operator : String) (a : Value) : Outcome Value :=
  match operator, a with
  | "-", .int n =>
    if n == Int64.minValue then .error (.arithmetic "integer overflow") else .ok (.int (-n))
  | "-", .float x => .ok (.float (-x))
  | "+", .int n => .ok (.int n)
  | "+", .float x => .ok (.float x)
  | "!", .bool b => .ok (.bool !b)
  | _, _ => unknown operator [a]

/-- The operators that combine the value of a variable with a new one where the variable stands;
any other combines them as it would outside an assignment. -/
def combineInPlace (operator : String) (old new : Value) : Outcome Value :=
  match operator, old, new with
  | "+", .array items, .array more => .ok (.array (items ++ more))
  | "+", .array items, item => .ok (.array (items ++ [item]))
  | "+", .blob octets, .int n => .ok (.blob (octets ++ [UInt8.ofInt n.toInt]))
  | "+", .blob octets, .text s => .ok (.blob (octets ++ Text.encode s))
  | "+", .char c, .text "" => .ok (.char c)
  | _, _, _ => binaryOperate operator old new

end Cellbook.Script
