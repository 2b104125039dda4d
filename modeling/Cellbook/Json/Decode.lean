import Cellbook.Json.Skip

/-!
# Reading values of known type

Readers for texts, truth values, counts, lists and records.  A record is read from an object, whose
unknown members are passed over, or from a list of its fields in order.

A value of another type is refused where it begins if it is a list or an object, and after it
otherwise.  What a record lacks or repeats is refused where its own reading stopped.
-/

namespace Cellbook.Json

variable {α σ : Type}

/-- What stands where another type was expected; moves past anything but a list or an object. -/
def found : Reader Found := do
  match ← peek? with
  | none => failAhead .expectedValue
  | some b =>
    if b == 'n'.toUInt8 then do expectWord ['n', 'u', 'l', 'l']; pure .null
    else if b == 't'.toUInt8 then do expectWord ['t', 'r', 'u', 'e']; pure (.boolean true)
    else if b == 'f'.toUInt8 then do
      expectWord ['f', 'a', 'l', 's', 'e']
      pure (.boolean false)
    else if b == '-'.toUInt8 then do advance; pure (← number true).found
    else if isDigit b then do pure (← number false).found
    else if b == '"'.toUInt8 then do advance; pure (.string (← stringContent))
    else if b == '['.toUInt8 then pure .sequence
    else if b == 0x7b then pure .map
    else failAhead .expectedValue

/-- Refuses a value of another type than the one expected. -/
def mismatch (expected : String) : Reader α :=
  placed do refuse (.invalidType (← found) expected)

/-- Looks at the value that comes next and reads it by its first octet. -/
def byFirst (reader : UInt8 → Reader α) : Reader α := do
  match ← peekToken? with
  | none => failAhead .endInValue
  | some b => reader b

/-- Reads a text. -/
def text : Reader String := byFirst fun b =>
  if b == '"'.toUInt8 then do advance; stringContent else mismatch "a string"

/-- Reads a truth value. -/
def boolean : Reader Bool := byFirst fun b =>
  if b == 't'.toUInt8 then do expectWord ['t', 'r', 'u', 'e']; pure true
  else if b == 'f'.toUInt8 then do expectWord ['f', 'a', 'l', 's', 'e']; pure false
  else mismatch "a boolean"

/-- Takes a number for a count of 64 bits. -/
def countOf : Number → Reader Nat
  | .natural value => pure value
  | .negative size => refuse (.invalidValue (Number.negative size).found "u64")
  | .real value => refuse (.invalidType (Number.real value).found "u64")

/-- Reads a count of 64 bits. -/
def count : Reader Nat := byFirst fun b =>
  if b == '-'.toUInt8 then do advance; placed (countOf (← number true))
  else if isDigit b then do placed (countOf (← number false))
  else mismatch "u64"

/-- Reads the next element of a list, if there is one. -/
def nextElement? (first : Bool) (element : Reader α) : Reader (Option α) := do
  match ← peekToken? with
  | none => failAhead .endInList
  | some b =>
    if b == ']'.toUInt8 then pure none
    else if first then some <$> element
    else if b == ','.toUInt8 then do
      advance
      match ← peekToken? with
      | none => failAhead .endInValue
      | some b => if b == ']'.toUInt8 then failAhead .trailingComma else some <$> element
    else failAhead .expectedCommaOrBracket

/-- Reads what ends a list. -/
def endList : Reader Unit := do
  match ← peekToken? with
  | none => failAhead .endInList
  | some b =>
    if b == ']'.toUInt8 then advance
    else if b == ','.toUInt8 then do
      advance
      if (← peekToken?) == some ']'.toUInt8 then failAhead .trailingComma
      else failAhead .trailingCharacters
    else failAhead .trailingCharacters

/-- Reads the elements of a list onto those already read, newest first.  Each takes up an octet at
least, so that there are no more than octets ahead, which are given first. -/
def elementsOnto (element : Reader α) : Bytes → List α → Reader (List α)
  | [], _ => failAhead .endInList
  | _ :: fuel, read => do
    match ← nextElement? read.isEmpty element with
    | none => pure read.reverse
    | some a => elementsOnto element fuel (a :: read)

/-- Reads a list. -/
def list (element : Reader α) : Reader (List α) := byFirst fun b =>
  if b == '['.toUInt8 then do
    advance
    placed (endedBy (do elementsOnto element (← get).rest []) endList)
  else mismatch "a sequence"

/-- A field of a record that is gathered in `σ`. -/
structure Field (σ : Type) where
  name : String
  /-- Whether the field has been read. -/
  isSet : σ → Bool
  /-- Reads the field. -/
  read : σ → Reader σ

/-- A record: its name, its fields in order, nothing read yet, and the value of what was read or the
name of the first field that is missing. -/
structure Record (σ α : Type) where
  name : String
  fields : List (Field σ)
  start : σ
  finish : σ → Except String α

namespace Record

/-- What is expected where a record is. -/
def expected (record : Record σ α) : String := "struct " ++ record.name

/-- What is expected where a list of fields is. -/
def expectedFields (record : Record σ α) : String :=
  record.expected ++ " with " ++ toString record.fields.length ++
    (if record.fields.length == 1 then " element" else " elements")

/-- Reads fields in order, as many as there are. -/
def readFields : Bool → List (Field σ) → σ → Reader σ
  | _, [], read => pure read
  | first, field :: rest, read => do
    match ← nextElement? first (field.read read) with
    | none => pure read
    | some read => readFields false rest read

/-- Reads a record from the elements of a list. -/
def ofElements (record : Record σ α) : Reader α := do
  let read ← readFields true record.fields record.start
  match record.finish read with
  | .ok value => pure value
  | .error missing =>
    refuse (.invalidLength (record.fields.findIdx (·.name == missing)) record.expectedFields)

/-- Reads the key of the next member of an object, if there is one. -/
def nextKey? (first : Bool) : Reader (Option String) := do
  match ← peekToken? with
  | none => failAhead .endInObject
  | some b =>
    if b == 0x7d then pure none
    else if first then
      if b == '"'.toUInt8 then do advance; some <$> stringContent else failAhead .keyNotString
    else if b == ','.toUInt8 then do
      advance
      match ← peekToken? with
      | none => failAhead .endInValue
      | some b =>
        if b == '"'.toUInt8 then do advance; some <$> stringContent
        else if b == 0x7d then failAhead .trailingComma
        else failAhead .keyNotString
    else failAhead .expectedCommaOrBrace

/-- Reads the colon after a key. -/
def colon : Reader Unit := do
  match ← peekToken? with
  | none => failAhead .endInObject
  | some b => if b == ':'.toUInt8 then advance else failAhead .expectedColon

/-- Reads what ends an object. -/
def endObject : Reader Unit := do
  match ← peekToken? with
  | none => failAhead .endInObject
  | some b =>
    if b == 0x7d then advance
    else if b == ','.toUInt8 then failAhead .trailingComma
    else failAhead .trailingCharacters

/-- Reads the value of a member whose key has been read. -/
def readMember (fields : List (Field σ)) (key : String) (read : σ) : Reader σ := do
  match fields.find? (·.name == key) with
  | none => do
    colon
    skipValue
    pure read
  | some field =>
    if field.isSet read then refuse (.duplicateField key)
    else do
      colon
      field.read read

/-- Reads the members of an object, no more than octets ahead, which are given first. -/
def readMembers (fields : List (Field σ)) : Bytes → Bool → σ → Reader σ
  | [], _, _ => failAhead .endInObject
  | _ :: fuel, first, read => do
    match ← nextKey? first with
    | none => pure read
    | some key => readMembers fields fuel false (← readMember fields key read)

/-- Reads a record from the members of an object. -/
def ofMembers (record : Record σ α) : Reader α := do
  let read ← readMembers record.fields (← get).rest true record.start
  match record.finish read with
  | .ok value => pure value
  | .error missing => refuse (.missingField missing)

/-- Reads a record. -/
def reader (record : Record σ α) : Reader α := byFirst fun b =>
  if b == '['.toUInt8 then do
    advance
    placed (endedBy record.ofElements endList)
  else if b == 0x7b then do
    advance
    placed (endedBy record.ofMembers endObject)
  else mismatch record.expected

end Record

/-- Reads to the end of the text. -/
def complete (reader : Reader α) : Reader α := do
  let value ← reader
  match ← peekToken? with
  | none => pure value
  | some _ => failAhead .trailingCharacters

/-- Reads a whole text. -/
def decode (reader : Reader α) (octets : Bytes) : Except Fault α :=
  match complete reader (.start octets) with
  | .ok value _ => .ok value
  | .error fault _ => .error fault

end Cellbook.Json
