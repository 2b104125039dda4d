import Cellbook.Json.Quoted

/-!
# Compact form

Lists and objects written without white space.
-/

namespace Cellbook.Json

/-- A list of written values. -/
def writeList (items : List String) : String := "[" ++ ",".intercalate items ++ "]"

/-- An object of keys and written values. -/
def writeObject (members : List (String × String)) : String :=
  "\x7b" ++ ",".intercalate (members.map fun m => quote m.1 ++ ":" ++ m.2) ++ "\x7d"

/-- A written truth value. -/
def writeBool (value : Bool) : String := if value then "true" else "false"

end Cellbook.Json
