import Cellbook.Script.Position
import Cellbook.Script.Show
import Cellbook.Script.SyntaxFault

/-!
# Faults of running scripts

Why a script stopped.  A fault knows the place where it arose and the calls it has left since, from
the innermost outward; its message tells both.
-/

namespace Cellbook.Script

/-- What went wrong. -/
inductive Cause where
  /-- A computation without a result, told by its message. -/
  | arithmetic (message : String)
  | variableNotFound (name : String)
  | functionNotFound (signature : String)
  | constantModified (name : String)
  | constantReceiver (method : String)
  | arrayBounds (size : Nat) (index : Int)
  | textBounds (size : Nat) (index : Int)
  | bitBounds (size : Nat) (index : Int)
  | mismatch (expected actual : String)
  | notIndexed (description : String)
  | noProperty (name description : String)
  | notIterable
  | unboundThis
  /-- A value thrown by the script. -/
  | thrown (value : Value)
  /-- A word that cannot name a function. -/
  | reservedName (word : String)
  | stackOverflow
  | tooManyOperations
  deriving Inhabited

/-- How the size of a sequence is told to someone who went beyond it. -/
def onlySo (size : Nat) (sequence unit units : String) : String :=
  if size == 0 then sequence ++ " is empty"
  else if size == 1 then "only 1 " ++ unit ++ " in " ++ sequence
  else "only " ++ toString size ++ " " ++ units ++ " in " ++ sequence

namespace Cause

/-- The message of a cause. -/
def message : Cause → String
  | arithmetic message => message
  | variableNotFound name => "Variable not found: " ++ name
  | functionNotFound signature => "Function not found: " ++ signature
  | constantModified name => "Cannot modify constant " ++ name
  | constantReceiver method => "Non-pure method '" ++ method ++ "' cannot be called on constant"
  | arrayBounds size index =>
    "Array index " ++ toString index ++ " out of bounds: " ++
      onlySo size "array" "element" "elements"
  | textBounds size index =>
    "String index " ++ toString index ++ " out of bounds: " ++
      onlySo size "string" "character" "characters"
  | bitBounds size index =>
    "Bit-field index " ++ toString index ++ " out of bounds: " ++
      onlySo size "bit-field" "bit" "bits"
  | mismatch expected actual => "Data type incorrect: " ++ actual ++ " (expecting " ++ expected ++ ")"
  | notIndexed description => "Indexer unavailable: " ++ description
  | noProperty _ description => description
  | notIterable => "For loop expects iterable type"
  | unboundThis => "'this' not bound"
  | thrown .unit => "Runtime error"
  | thrown (.text "") => "Runtime error"
  | thrown value => "Runtime error: " ++ value.bare
  | reservedName word => "Syntax error: " ++ (SyntaxCause.reserved word).message
  | stackOverflow => "Stack overflow"
  | tooManyOperations => "Too many operations"

/-- Whether a script can catch the fault. -/
def catchable : Cause → Bool
  | reservedName _ | stackOverflow | tooManyOperations => false
  | _ => true

/-- The kind of a cause as a script that catches it is told. -/
def kind : Cause → String
  | arithmetic _ => "ErrorArithmetic"
  | variableNotFound _ => "ErrorVariableNotFound"
  | functionNotFound _ => "ErrorFunctionNotFound"
  | constantModified _ => "ErrorAssignmentToConstant"
  | constantReceiver _ => "ErrorNonPureMethodCallOnConstant"
  | arrayBounds _ _ => "ErrorArrayBounds"
  | textBounds _ _ => "ErrorStringBounds"
  | bitBounds _ _ => "ErrorBitFieldBounds"
  | mismatch _ _ => "ErrorMismatchDataType"
  | notIndexed _ => "ErrorIndexingType"
  | noProperty _ _ => "ErrorDotExpr"
  | notIterable => "ErrorFor"
  | unboundThis => "ErrorUnboundThis"
  | thrown _ => "ErrorRuntime"
  | reservedName _ => "ErrorParsing"
  | stackOverflow => "ErrorStackOverflow"
  | tooManyOperations => "ErrorTooManyOperations"

/-- What else a script that catches the fault is told. -/
def details : Cause → List (String × Value)
  | variableNotFound name | constantModified name => [("variable", .text name)]
  | functionNotFound name | constantReceiver name => [("function", .text name)]
  | arrayBounds size index | textBounds size index | bitBounds size index =>
    [("length", .int (Int64.ofNat size)), ("index", .int (Int64.ofInt index))]
  | mismatch expected actual => [("requested", .text expected), ("actual", .text actual)]
  | notIndexed description => [("type", .text description)]
  | noProperty _ description => [("property", .text description)]
  | _ => []

end Cause

/-- A call that a fault has left. -/
structure LeftCall where
  /-- The function; none for a closure. -/
  function : Option String
  position : Option Position

/-- A fault, where it arose, and the calls it has left, innermost first. -/
structure Fault where
  cause : Cause
  position : Option Position
  calls : List LeftCall := []

namespace Fault

/-- The line that tells of a call left. -/
def callLine (call : LeftCall) : String :=
  (match call.function with
    | some name => "\nin call to function '" ++ name ++ "'"
    | none => "\nin closure call") ++ Position.suffix call.position

/-- The message of a fault. -/
def message (fault : Fault) : String :=
  fault.cause.message ++ Position.suffix fault.position ++
    String.join (fault.calls.map callLine)

/-- A fault without a place gets this one. -/
def placed (fault : Fault) (position : Position) : Fault :=
  { fault with position := some (fault.position.getD position) }

/-- Whether a script can catch a fault: by its cause, or because it has left a call. -/
def catchable (fault : Fault) : Bool := fault.cause.catchable || !fault.calls.isEmpty

/-- The fault after leaving a call, whatever its cause. -/
def left (fault : Fault) (function : Option String) (position : Option Position) : Fault :=
  { fault with calls := fault.calls ++ [⟨function, position⟩] }

/-- The fault after leaving a call of a function of the script: one that cannot be caught only moves
to its place. -/
def leaving (fault : Fault) (function : Option String) (position : Option Position) : Fault :=
  if fault.catchable then fault.left function position else { fault with position := position }

/-- The place told last: that of the outermost call left, or where the fault arose. -/
def lastPosition (fault : Fault) : Option Position :=
  match fault.calls.getLast? with
  | some call => call.position
  | none => fault.position

/-- The fault with another last place. -/
def withLastPosition (fault : Fault) (position : Option Position) : Fault :=
  match fault.calls.reverse with
  | [] => { fault with position := position }
  | last :: inner => { fault with calls := ({ last with position := position } :: inner).reverse }

/-- What a script that catches a fault finds in its variable: the value it threw, or a description
of the fault. -/
def caught (fault : Fault) : Value :=
  match fault.cause with
  | .thrown value => value
  | cause =>
    let place :=
      match fault.lastPosition with
      | some p =>
        [("line", Value.int (Int64.ofNat p.line)), ("position", .int (Int64.ofNat p.column))]
      | none => []
    let outer :=
      match fault.calls.getLast? with
      | some call =>
        [("error", Value.text "ErrorInFunctionCall"), ("source", .text ""),
          ("function", .text (call.function.getD "closure"))]
      | none => ("error", .text cause.kind) :: cause.details
    Value.ofEntries (("message", .text (fault.withLastPosition none).message) :: place ++ outer)

end Fault

end Cellbook.Script
