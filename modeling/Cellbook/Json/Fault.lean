import Cellbook.Text.Quoted

/-!
# Faults of JSON texts

Why a JSON text cannot be read as what was asked for, and where.  A place is a line and the number
of octets on it; it is missing where the text was read but its value was refused.
-/

namespace Cellbook.Json

/-- What stands in a text where something else was expected. -/
inductive Found where
  | null
  | boolean (value : Bool)
  /-- A whole number. -/
  | integer (value : Int)
  /-- Any other number, in its written form. -/
  | real (written : String)
  | string (content : String)
  | sequence
  | map
  deriving Repr, DecidableEq

/-- The words for what was found. -/
def Found.describe : Found → String
  | .null => "null"
  | .boolean value => "boolean `" ++ (if value then "true" else "false") ++ "`"
  | .integer value => "integer `" ++ toString value ++ "`"
  | .real written => "floating point `" ++ written ++ "`"
  | .string content => "string " ++ Text.quote content
  | .sequence => "sequence"
  | .map => "map"

/-- Why a JSON text cannot be read. -/
inductive Cause where
  /-- The text ends where a list goes on. -/
  | endInList
  /-- The text ends where an object goes on. -/
  | endInObject
  /-- The text ends within a string. -/
  | endInString
  /-- The text ends where a value should stand. -/
  | endInValue
  | expectedColon
  | expectedCommaOrBracket
  | expectedCommaOrBrace
  | expectedIdent
  | expectedValue
  | invalidEscape
  | invalidNumber
  | numberOutOfRange
  | invalidCodePoint
  | controlCharacter
  | keyNotString
  | loneSurrogate
  | unfinishedSurrogates
  | trailingComma
  | trailingCharacters
  /-- A value of one type where another was expected. -/
  | invalidType (found : Found) (expected : String)
  /-- A value that its type does not admit. -/
  | invalidValue (found : Found) (expected : String)
  /-- A list of fields that ends too early. -/
  | invalidLength (length : Nat) (expected : String)
  | missingField (name : String)
  | duplicateField (name : String)
  /-- A value that was read and then refused, with the reason. -/
  | refused (reason : String)
  deriving Repr, DecidableEq

/-- The words for a cause. -/
def Cause.describe : Cause → String
  | .endInList => "EOF while parsing a list"
  | .endInObject => "EOF while parsing an object"
  | .endInString => "EOF while parsing a string"
  | .endInValue => "EOF while parsing a value"
  | .expectedColon => "expected `:`"
  | .expectedCommaOrBracket => "expected `,` or `]`"
  | .expectedCommaOrBrace => "expected `,` or `\x7d`"
  | .expectedIdent => "expected ident"
  | .expectedValue => "expected value"
  | .invalidEscape => "invalid escape"
  | .invalidNumber => "invalid number"
  | .numberOutOfRange => "number out of range"
  | .invalidCodePoint => "invalid unicode code point"
  | .controlCharacter => "control character (\\u0000-\\u001F) found while parsing a string"
  | .keyNotString => "key must be a string"
  | .loneSurrogate => "lone leading surrogate in hex escape"
  | .unfinishedSurrogates => "unexpected end of hex escape"
  | .trailingComma => "trailing comma"
  | .trailingCharacters => "trailing characters"
  | .invalidType found expected => "invalid type: " ++ found.describe ++ ", expected " ++ expected
  | .invalidValue found expected =>
    "invalid value: " ++ found.describe ++ ", expected " ++ expected
  | .invalidLength length expected =>
    "invalid length " ++ toString length ++ ", expected " ++ expected
  | .missingField name => "missing field `" ++ name ++ "`"
  | .duplicateField name => "duplicate field `" ++ name ++ "`"
  | .refused reason => reason

/-- A line of a text, from one, and the number of octets on it. -/
structure Place where
  line : Nat
  column : Nat
  deriving Repr, DecidableEq

/-- Why a JSON text cannot be read, and where. -/
structure Fault where
  cause : Cause
  place : Option Place
  deriving Repr, DecidableEq

/-- The message of a fault. -/
def Fault.message (fault : Fault) : String :=
  match fault.place with
  | none => fault.cause.describe
  | some place =>
    fault.cause.describe ++ " at line " ++ toString place.line ++ " column " ++
      toString place.column

end Cellbook.Json
