import Cellbook.Rendering.Rendered

/-!
# Values

What scripts compute with.  Containers hold their elements by value; a map keeps its entries in the
order of their keys.  A variable that a closure has captured holds a `shared` cell instead of its
value, and so do the closures that captured it; nothing else holds one.
-/

namespace Cellbook.Script

/-- A value built to be shown: a text and rich representations. -/
structure Rich where
  text : Option String := none
  offers : Offers := {}
  deriving Repr, DecidableEq

/-- What a function value stands for. -/
inductive Callee where
  /-- The function of that name, looked up when called. -/
  | named (name : String)
  /-- A function without a name, by its number. -/
  | lambda (number : Nat)
  deriving Repr, DecidableEq

/-- A value of the script language. -/
inductive Value where
  | unit
  | bool (value : Bool)
  | int (value : Int64)
  | float (value : Float)
  | char (value : Char)
  | text (value : String)
  | array (items : List Value)
  | blob (octets : Bytes)
  | map (entries : List (String × Value))
  | range (low high : Int64) (closed : Bool)
  /-- A function and the arguments already given to it. -/
  | function (callee : Callee) (bound : List Value)
  | rich (value : Rich)
  /-- The value in a cell. -/
  | shared (cell : Nat)
  deriving Repr, Inhabited

namespace Value

/-- The name of the type of a value. -/
def typeName : Value → String
  | unit => "()"
  | bool _ => "bool"
  | int _ => "i64"
  | float _ => "f64"
  | char _ => "char"
  | text _ => "string"
  | array _ => "array"
  | blob _ => "blob"
  | map _ => "map"
  | range _ _ closed => if closed then "range=" else "range"
  | function _ _ => "Fn"
  | rich _ => "Rich"
  | shared _ => "?"

/-- Whether a value stands for that in a cell. -/
def isShared : Value → Bool
  | shared _ => true
  | _ => false

/-- The name of the type of an argument as the message of an unknown function tells it. -/
def argumentTypeName : Value → String
  | text _ => "&str | ImmutableString | String"
  | value => value.typeName

/-- Sets the value of a key in entries ordered by key. -/
def insertEntry (key : String) (value : Value) : List (String × Value) → List (String × Value)
  | [] => [(key, value)]
  | (name, old) :: rest =>
    if key < name then (key, value) :: (name, old) :: rest
    else if key == name then (name, value) :: rest
    else (name, old) :: insertEntry key value rest

/-- The map with the given entries, later ones taking precedence. -/
def ofEntries (entries : List (String × Value)) : Value :=
  .map (entries.foldl (fun all entry => insertEntry entry.1 entry.2 all) [])

end Value

end Cellbook.Script
