import Cellbook.Script.Library.Text

/-!
# Functions on arrays, octets and maps

Functions that only look at a collection, and functions that change the one they are called on.
-/

namespace Cellbook.Script.Library

/-- The place of the first item from `place` on that equals a value. -/
def findItem (sought : Value) (place : Nat) : List Value → Outcome (Option Nat)
  | [] => .ok none
  | item :: rest =>
    match item.equal sought with
    | .ok true => .ok (some place)
    | .ok false => findItem sought (place + 1) rest
    | .error cause => .error cause

/-- The octet that an integer wraps to. -/
def octet (n : Int64) : UInt8 := UInt8.ofInt n.toInt

/-- The integer of an octet. -/
def ofOctet (b : UInt8) : Value := .int (Int64.ofNat b.toNat)

/-- A count as a value. -/
def count (n : Nat) : Value := .int (Int64.ofNat n)

/-- A place as a value, minus one for none. -/
def placeValue (place : Option Nat) : Value := place.elim (.int (-1)) count

/-- Puts an item before the place that an index names, or at the nearest end. -/
def insertAt {α : Type} (items : List α) (index : Int) (item : α) : List α :=
  let place := clampedPlace items.length index
  items.take place ++ item :: items.drop place

/-- Takes out the item at the place that an index names, if it is inside. -/
def removeAt {α : Type} (items : List α) (index : Int) : Option (α × List α) :=
  (place? items.length index).bind fun place =>
    (items[place]?).map fun item => (item, items.take place ++ items.drop (place + 1))

/-- The properties of collections other than maps; nothing where there is none. -/
def collectionProperty? (name : String) (value : Value) : Option Value :=
  match name, value with
  | "len", .array items => some (count items.length)
  | "len", .blob octets => some (count octets.length)
  | "is_empty", .array items => some (.bool items.isEmpty)
  | "is_empty", .blob octets => some (.bool octets.isEmpty)
  | "is_empty", .range low high closed => some (.bool (if closed then high < low else high ≤ low))
  | "start", .range low _ _ => some (.int low)
  | "end", .range _ high _ => some (.int high)
  | "is_inclusive", .range _ _ closed => some (.bool closed)
  | "is_exclusive", .range _ _ closed => some (.bool !closed)
  | _, _ => none

/-- The functions that look at a collection; nothing where none fits. -/
def onCollection? (function : String) (collection : Value) (arguments : List Value) :
    Option (Outcome Value) :=
  let done (value : Value) : Option (Outcome Value) := some (.ok value)
  match function, collection, arguments with
  | "len", .map entries, [] => done (count entries.length)
  | "is_empty", .map entries, [] => done (.bool entries.isEmpty)
  | "contains", .array items, [v] =>
    some ((findItem v 0 items).map fun place => .bool place.isSome)
  | "contains", .blob octets, [.int n] => done (.bool (octets.contains (octet n)))
  | "contains", .map entries, [.text key] => done (.bool (entries.any (·.1 == key)))
  | "contains", .range low high closed, [.int n] =>
    done (.bool (low ≤ n && if closed then n ≤ high else n < high))
  | "index_of", .array items, [v] => some ((findItem v 0 items).map placeValue)
  | "index_of", .array items, [v, .int start] =>
    let start := clampedPlace items.length start.toInt
    some ((findItem v start (items.drop start)).map placeValue)
  | "keys", .map entries, [] => done (.array (entries.map fun entry => .text entry.1))
  | "values", .map entries, [] => done (.array (entries.map Prod.snd))
  | _, _, _ => none

/-- The functions that change the collection they are called on: the collection afterwards and the
answer; nothing where none fits. -/
def change? (function : String) (collection : Value) (arguments : List Value) :
    Option (Value × Value) :=
  match function, collection, arguments with
  | "push", .array items, [v] => some (.array (items ++ [v]), .unit)
  | "push", .blob octets, [.int n] => some (.blob (octets ++ [octet n]), .unit)
  | "pop", .array items, [] => some (.array items.dropLast, items.getLast?.getD .unit)
  | "pop", .blob octets, [] => some (.blob octets.dropLast, ofOctet (octets.getLast?.getD 0))
  | "pop", .text s, [] =>
    let chars := s.toList
    some (.text (String.ofList chars.dropLast), chars.getLast?.elim .unit Value.char)
  | "pop", .text s, [.int n] =>
    let chars := s.toList
    let kept := chars.length - n.toInt.toNat
    some (.text (String.ofList (chars.take kept)), .text (String.ofList (chars.drop kept)))
  | "insert", .array items, [.int index, v] =>
    some (.array (insertAt items index.toInt v), .unit)
  | "insert", .blob octets, [.int index, .int n] =>
    some (.blob (insertAt octets index.toInt (octet n)), .unit)
  | "remove", .array items, [.int index] =>
    match removeAt items index.toInt with
    | some (item, rest) => some (.array rest, item)
    | none => some (.array items, .unit)
  | "remove", .blob octets, [.int index] =>
    match removeAt octets index.toInt with
    | some (b, rest) => some (.blob rest, ofOctet b)
    | none => some (.blob octets, .int 0)
  | "remove", .map entries, [.text key] =>
    some (.map (entries.filter (·.1 != key)), (entries.lookup key).getD .unit)
  | "remove", .text s, [v] => v.asText?.map fun removed => (.text (without s removed), .unit)
  | "clear", .array _, [] => some (.array [], .unit)
  | "clear", .blob _, [] => some (.blob [], .unit)
  | "clear", .map _, [] => some (.map [], .unit)
  | "clear", .text _, [] => some (.text "", .unit)
  | _, _, _ => none

end Cellbook.Script.Library
