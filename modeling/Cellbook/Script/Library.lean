import Cellbook.Script.Library.Collection
import Cellbook.Script.Library.Number
import Cellbook.Script.Library.Rich
import Cellbook.Script.Token

/-!
# The functions that every script has

`Library.call?` answers for a function by its name and the types of its arguments.  Functions that
change what they are called on are told apart by `Library.change?`; those that call other
functions, or print, are left to the evaluator.

The language comes with more functions than these: `eval`, those that tell the time or take roots,
those that sort, trim or splice, and others.  A call of one that is left out is that of a function
that does not exist.
-/

namespace Cellbook.Script.Library

/-- The function of a name that a text spells. -/
def functionNamed (name : String) : Outcome Callee :=
  if keywords.contains name || reservedKeywords.contains name || symbols.contains name ||
      name == "_" || (reservedSymbols.lookup name).isSome then .error (.reservedName name)
  else if isWord name then .ok (.named name)
  else .error (.functionNotFound name)

/-- The octets of a new blob. -/
def newBlob (length : Int) (n : Int64) : Value := .blob (List.replicate length.toNat (octet n))

/-- The functions that take any value. -/
def onAny? (function : String) (value : Value) : Option Value :=
  match function with
  | "to_string" => some (.text value.printed)
  | "to_debug" => some (.text value.debugged)
  | "type_of" => some (.text value.typeName)
  | _ => none

/-- The properties of values that are no maps, which are functions as well; nothing where there is
none. -/
def property? (name : String) (value : Value) : Option Value :=
  match value with
  | .text s => textProperty? name s
  | .function callee _ =>
    match name, callee with
    | "name", callee => some (.text callee.name)
    | "is_anonymous", .lambda _ => some (.bool true)
    | "is_anonymous", .named _ => some (.bool false)
    | _, _ => none
  | value => (numberProperty? name value).or (collectionProperty? name value)

/-- The functions that change nothing; nothing where none fits. -/
def call? (function : String) (arguments : List Value) : Option (Outcome Value) :=
  let property :=
    match arguments with
    | [value] => property? function value
    | _ => none
  match onNumber? function arguments, property.or (construct? function arguments) with
  | some outcome, _ => some outcome
  | none, some value => some (.ok value)
  | none, none =>
    match function, arguments with
    | "blob", [] => some (.ok (.blob []))
    | "blob", [.int n] => some (.ok (newBlob n.toInt 0))
    | "blob", [.int n, .int b] => some (.ok (newBlob n.toInt b))
    | "+", [a] | "-", [a] | "!", [a] => some (unaryOperate function a)
    | _, .text s :: rest =>
      match onText? function s rest with
      | some outcome => some outcome
      | none =>
        if rest.isEmpty then (onAny? function (.text s)).map .ok else none
    | _, value :: rest =>
      match onCollection? function value rest with
      | some outcome => some outcome
      | none => if rest.isEmpty then (onAny? function value).map .ok else none
    | _, [] => none

end Cellbook.Script.Library
