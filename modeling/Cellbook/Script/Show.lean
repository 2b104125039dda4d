import Cellbook.Script.Value

/-!
# Text forms of values

A value has four written forms.  `printed` is what a script prints; `debugged` tells texts by their
quotes; `exact` also tells characters by theirs; `bare` is `printed` for a value by itself, and
`exact` for what is inside it.
-/

namespace Cellbook.Script

/-- The text of a value built to be shown. -/
def Rich.shownText (rich : Rich) : String := rich.text.getD "<rich>"

/-- The name under which a value built to be shown goes where its text is not asked for. -/
def richTypeName : String := "unotebook_core::eval::rhai_engine::RichValue"

/-- The name of the type of a value where another type was expected. -/
def Value.plainTypeName : Value → String
  | .range _ _ closed =>
    if closed then "core::ops::range::RangeInclusive<i64>" else "core::ops::range::Range<i64>"
  | .rich _ => richTypeName
  | value => value.typeName

/-- Two hexadecimal digits of an octet. -/
def hexOctet (b : UInt8) : List Char :=
  [Nat.digitChar (b.toNat / 16), Nat.digitChar (b.toNat % 16)]

/-- Octets in hexadecimal between brackets, in groups of eight. -/
def hexGroups (octets : Bytes) : String :=
  let groups := (Base64.cut 8 octets).map fun group => String.ofList (group.flatMap hexOctet)
  "[" ++ " ".intercalate groups ++ "]"

/-- The name of what a function value stands for. -/
def Callee.name : Callee → String
  | named name => name
  | lambda number =>
    let digits := Text.hexDigits number
    "anon$" ++ String.ofList (List.replicate (16 - digits.length) '0' ++ digits)

/-- The text of a range. -/
def rangeText (low high : Int64) (closed : Bool) : String :=
  toString low.toInt ++ (if closed then "..=" else "..") ++ toString high.toInt

namespace Value

mutual

/-- A value as it stands inside a container, or by itself in the forms that quote texts. -/
def quoted (exact : Bool) : Value → String
  | unit => "()"
  | bool b => if b then "true" else "false"
  | int n => toString n.toInt
  | float x => Decimal.exact.write x
  | char c => if exact then Text.quoteChar c else String.singleton c
  | text s => Text.quote s
  | array items => "[" ++ ", ".intercalate (quotedItems exact items) ++ "]"
  | blob octets => hexGroups octets
  | map entries => "#\x7b" ++ ", ".intercalate (quotedEntries exact entries) ++ "\x7d"
  | range low high closed => rangeText low high closed
  | function callee bound =>
    "Fn(" ++ ", ".intercalate (Text.quote callee.name :: quotedItems exact bound) ++ ")"
  | rich r => if exact then richTypeName else r.shownText
  | shared _ => ""

/-- The items of an array as they stand inside it. -/
def quotedItems (exact : Bool) : List Value → List String
  | [] => []
  | value :: rest => value.quoted exact :: quotedItems exact rest

/-- The entries of a map as they stand inside it. -/
def quotedEntries (exact : Bool) : List (String × Value) → List String
  | [] => []
  | (key, value) :: rest =>
    (Text.quote key ++ ": " ++ value.quoted exact) :: quotedEntries exact rest

end

/-- The form that tells texts by their quotes. -/
def debugged (value : Value) : String := value.quoted false

/-- The form that tells all types apart and loses nothing. -/
def exact (value : Value) : String := value.quoted true

/-- A value by itself as a reader wants it, or its form `inside`. -/
def byItself (inside : Value → String) : Value → String
  | unit => ""
  | char c => String.singleton c
  | text s => s
  | float x => Decimal.display.write x
  | function callee _ => "Fn(" ++ callee.name ++ ")"
  | value => inside value

/-- The form that a script prints. -/
def printed (value : Value) : String := value.byItself debugged

/-- The form of a value that becomes a text payload. -/
def bare (value : Value) : String := value.byItself exact

end Value

end Cellbook.Script
