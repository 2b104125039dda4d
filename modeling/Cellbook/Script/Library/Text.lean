import Cellbook.Script.Operator
import Cellbook.Text.Case

/-!
# Functions on texts

Texts are counted and cut in characters.  An index below zero counts from the end.
-/

namespace Cellbook.Script.Library

/-- The place that an index names in a sequence of a given length, if it is inside. -/
def place? (length : Nat) (index : Int) : Option Nat :=
  if 0 ≤ index then if index.toNat < length then some index.toNat else none
  else if index.natAbs ≤ length then some (length - index.natAbs) else none

/-- The place that an index names in a sequence of a given length, or the nearest end. -/
def clampedPlace (length : Nat) (index : Int) : Nat :=
  if 0 ≤ index then min length index.toNat else length - index.natAbs

/-- A text without white space at its ends. -/
def trimmed (text : String) : String :=
  let front := text.toList.dropWhile Text.isWhiteSpace
  String.ofList (front.reverse.dropWhile Text.isWhiteSpace).reverse

/-- The properties of texts; nothing where there is none. -/
def textProperty? (name : String) (text : String) : Option Value :=
  match name with
  | "len" => some (.int (Int64.ofNat text.toList.length))
  | "bytes" => some (.int (Int64.ofNat text.utf8ByteSize))
  | "is_empty" => some (.bool text.isEmpty)
  | _ => none

/-- The first place from `place` on where the characters continue with `sought`. -/
def findFrom (sought : List Char) (place : Nat) : List Char → Option Nat
  | [] => if sought.isEmpty then some place else none
  | c :: rest =>
    if sought.isPrefixOf (c :: rest) then some place else findFrom sought (place + 1) rest

/-- The place of a text in another from a start on, or minus one.  Nothing is found beyond the last
character. -/
def indexIn (text sought : String) (start : Nat) : Int :=
  let rest := text.toList.drop start
  if rest.isEmpty then -1
  else ((findFrom sought.toList start rest).map Int.ofNat).getD (-1)

/-- Whether a text is in another. -/
def isIn (text sought : String) : Bool := (findFrom sought.toList 0 text.toList).isSome

/-- A part of a text: from a start that may count from the end, at most `length` characters. -/
def part (text : String) (start length : Int) : String :=
  let chars := text.toList
  let start := clampedPlace chars.length start
  String.ofList ((chars.drop start).take length.toNat)

/-- The pieces of a text between occurrences of a delimiter, at most `limit` of them. -/
def splitChars (delimiter : List Char) (limit : Nat) (piece : List Char) (skip : Nat) :
    List Char → List (List Char)
  | [] => [piece.reverse]
  | c :: rest =>
    if skip > 0 then splitChars delimiter limit piece (skip - 1) rest
    else if 1 < limit && delimiter.isPrefixOf (c :: rest) then
      piece.reverse :: splitChars delimiter (limit - 1) [] (delimiter.length - 1) rest
    else splitChars delimiter limit (c :: piece) 0 rest

/-- The pieces of a text between occurrences of a delimiter, at most `limit` of them.  An empty
delimiter occurs before, between and after the characters. -/
def splitText (text delimiter : String) (limit : Nat) : List String :=
  let chars := text.toList
  if limit == 0 then []
  else if text.isEmpty then [""]
  else if delimiter.isEmpty then
    let pieces := [] :: chars.map ([·]) ++ [[]]
    let kept := pieces.take (limit - 1)
    let last := pieces.drop (limit - 1)
    (kept ++ if last.isEmpty then [] else [last.flatten]).map String.ofList
  else (splitChars delimiter.toList limit [] 0 chars).map String.ofList

/-- The pieces of a text between white space, after what has been read of one. -/
def wordsFrom (word : List Char) : List Char → List (List Char)
  | [] => if word.isEmpty then [] else [word.reverse]
  | c :: rest =>
    if Text.isWhiteSpace c then
      if word.isEmpty then wordsFrom [] rest else word.reverse :: wordsFrom [] rest
    else wordsFrom (c :: word) rest

/-- The words of a text, which for an empty one is that text. -/
def words (text : String) : List String :=
  if text.isEmpty then [""] else (wordsFrom [] text.toList).map String.ofList

/-- The place at which an index cuts a sequence of a given length in two: from the start if it is
above zero, from the end otherwise. -/
def cutPlace (length : Nat) (index : Int) : Nat :=
  if 0 < index then min length index.toNat else length - index.natAbs

/-- A list of texts as an array. -/
def textArray (texts : List String) : Value := .array (texts.map Value.text)

/-- What is wrong with the digits of an integer, if anything, or its value. -/
def readDigits (radix : Nat) (negative : Bool) : Int → List Char → Except String Int
  | value, [] => .ok value
  | value, c :: rest =>
    let digit :=
      if c.isDigit then some (c.toNat - '0'.toNat)
      else if c.isAlpha then some (c.toLower.toNat - 'a'.toNat + 10)
      else none
    match digit.filter (· < radix) with
    | none => .error "invalid digit found in string"
    | some d =>
      let value := if negative then value * radix - d else value * radix + d
      if value > Int64.maxValue.toInt then .error "number too large to fit in target type"
      else if value < Int64.minValue.toInt then .error "number too small to fit in target type"
      else readDigits radix negative value rest

/-- Reads an integer with an optional sign. -/
def readInteger (radix : Nat) (text : String) : Except String Int :=
  match text.toList with
  | [] => .error "cannot parse integer from empty string"
  | ['-'] | ['+'] => .error "invalid digit found in string"
  | '-' :: rest => readDigits radix true 0 rest
  | '+' :: rest => readDigits radix false 0 rest
  | rest => readDigits radix false 0 rest

/-- The integer that a text spells. -/
def parseInteger (text : String) (radix : Int) : Outcome Value :=
  if radix < 2 || 36 < radix then
    .error (.arithmetic ("Invalid radix: '" ++ toString radix ++ "'"))
  else
    match readInteger radix.toNat (trimmed text) with
    | .ok n => .ok (.int (Int64.ofInt n))
    | .error reason =>
      .error (.arithmetic ("Error parsing integer number '" ++ text ++ "': " ++ reason))

/-- The floating-point number that a text spells. -/
def parseReal (text : String) : Outcome Value :=
  let digits := trimmed text
  match Decimal.parse? digits with
  | some x => .ok (.float x)
  | none =>
    let reason :=
      if digits.isEmpty then "cannot parse float from empty string" else "invalid float literal"
    .error (.arithmetic ("Error parsing floating-point number '" ++ text ++ "': " ++ reason))

/-- The functions on texts; nothing where none fits. -/
def onText? (function : String) (text : String) (arguments : List Value) :
    Option (Outcome Value) :=
  let done (value : Value) : Option (Outcome Value) := some (.ok value)
  let length := text.toList.length
  match function, arguments with
  | "to_upper", [] => done (.text (Text.toUpper text))
  | "to_lower", [] => done (.text (Text.toLower text))
  | "contains", [v] => v.asText?.map fun s => .ok (.bool (isIn text s))
  | "starts_with", [.text s] => done (.bool (s.toList.isPrefixOf text.toList))
  | "ends_with", [.text s] => done (.bool (s.toList.reverse.isPrefixOf text.toList.reverse))
  | "index_of", [v] => v.asText?.map fun s => .ok (.int (Int64.ofInt (indexIn text s 0)))
  | "index_of", [v, .int start] =>
    v.asText?.map fun s =>
      .ok (.int (Int64.ofInt (indexIn text s (clampedPlace length start.toInt))))
  | "sub_string", [.int start] => done (.text (part text start.toInt length))
  | "sub_string", [.int start, .int count] => done (.text (part text start.toInt count.toInt))
  | "sub_string", [.range low high closed] =>
    let low := max 0 low
    let count := max low high - low + if closed then 1 else 0
    done (.text (part text low.toInt count.toInt))
  | "split", [] => done (textArray (words text))
  | "split", [.int place] =>
    let place := cutPlace length place.toInt
    done (textArray
      [String.ofList (text.toList.take place), String.ofList (text.toList.drop place)])
  | "split", [v] => v.asText?.map fun s => .ok (textArray (splitText text s (length + 2)))
  | "split", [v, .int limit] =>
    v.asText?.map fun s => .ok (textArray (splitText text s (max 1 limit.toInt).toNat))
  | "parse_int", [] => some (parseInteger text 10)
  | "parse_int", [.int radix] => some (parseInteger text radix.toInt)
  | "parse_float", [] => some (parseReal text)
  | _, _ => none

end Cellbook.Script.Library
