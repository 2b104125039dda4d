import Cellbook.Script.Evaluation.Chain
import Cellbook.Script.SyntaxFault

/-!
# Evaluating expressions

Operands go from left to right.  A call whose first argument is a variable evaluates the others
first and may change the variable; one that is constant or shared with closures is passed by value.
-/

namespace Cellbook.Script

open Run

/-- Evaluates the arguments of a call and then calls `invoke` on them. -/
def evaluateArguments (parts : Evaluators) (frame : Frame) (invoke : List Value → Run Ended)
    (arguments : List Expr) : Run Value := do
  match arguments with
  | .name name bound place :: rest =>
    let values ← rest.mapM (parts.expression frame)
    if frame.namesFunction name bound then
      settle (← invoke (.function (.named name) [] :: values)).2
    else
      match ← find? name with
      | none => fail (.variableNotFound name) place
      | some binding =>
        let first ← flatten binding.value
        let (after, outcome) ← invoke (first :: values)
        match after, binding.value with
        | some _, .shared _ | none, _ => settle outcome
        | some value, _ =>
          if !binding.constant then assign binding value
          settle outcome
  | arguments => settle (← invoke (← arguments.mapM (parts.expression frame))).2

/-- Evaluates the first argument of a special call as a function value. -/
def evaluateCallee (parts : Evaluators) (frame : Frame) (e : Expr) :
    Run (Callee × List Value) := do
  match ← parts.expression frame e with
  | .function callee bound => return (callee, bound)
  | value => fail (.mismatch "Fn" value.typeName) e.startPosition

/-- Evaluates an argument of a special call as a text. -/
def evaluateText (parts : Evaluators) (frame : Frame) (e : Expr) : Run String := do
  match ← parts.expression frame e with
  | .text s => return s
  | value => fail (.mismatch "string" value.plainTypeName) e.startPosition

/-- Whether a variable shares its value with closures. -/
def isShared (name : String) (position : Position) : Run Value := do
  match ← find? name with
  | some ⟨_, _, .shared _⟩ => return .bool true
  | some _ => return .bool false
  | none => fail (.variableNotFound name) position

/-- Evaluates a call.  The special ones deal in function values, or look at what is defined. -/
def evaluateCall (parts : Evaluators) (frame : Frame) (function : String)
    (arguments : List Expr) (position : Position) : Run Value := do
  match function, arguments with
  | "call", e :: rest =>
    let (callee, bound) ← evaluateCallee parts frame e
    let invoke (values : List Value) : Run Ended :=
      match callee, bound with
      | .named name, [] => callNamed parts frame name values position
      | callee, bound => callValue parts frame callee bound none values position
    if bound.isEmpty then evaluateArguments parts frame invoke rest
    else settle (← invoke (← rest.mapM (parts.expression frame))).2
  | "curry", e :: more :: rest =>
    let (callee, bound) ← evaluateCallee parts frame e
    return .function callee (bound ++ (← (more :: rest).mapM (parts.expression frame)))
  | "Fn", [e] =>
    let name ← evaluateText parts frame e
    return .function (← ofOutcome e.startPosition (Library.functionNamed name)) []
  | "is_shared", [.name name _ place] => isShared name place
  | "is_shared", [e] => do
    let _ ← parts.expression frame e
    return .bool false
  | "is_def_var", [e] => return .bool (← find? (← evaluateText parts frame e)).isSome
  | "is_def_fn", [e, arity] =>
    let name ← evaluateText parts frame e
    match ← parts.expression frame arity with
    | .int n =>
      return .bool (0 ≤ n && (frame.code.function? name n.toInt.toNat).isSome)
    | value => fail (.mismatch "i64" value.plainTypeName) arity.startPosition
  | _, arguments =>
    evaluateArguments parts frame (callNamed parts frame function · position) arguments

/-- Evaluates an expression. -/
def evaluateExpression (parts : Evaluators) (frame : Frame) (e : Expr) : Run Value := do
  tick frame e.position
  match e with
  | .literal value _ => return value
  | .embedded segments _ =>
    let texts ← segments.mapM fun segment => do
      return (← parts.expression frame segment).printed
    return .text (String.join texts)
  | .array items _ => return .array (← items.mapM (parts.expression frame))
  | .map entries _ =>
    let values ← entries.mapM fun (key, e) => do return (key, ← parts.expression frame e)
    return .ofEntries values
  | .name name bound position =>
    if frame.namesFunction name bound then return .function (.named name) []
    else
      match ← find? name with
      | some binding => flatten binding.value
      | none => fail (.variableNotFound name) position
  | .this position =>
    match (← get).receiver with
    | some receiver => return receiver.value
    | none => fail .unboundThis position
  | .call function arguments position =>
    evaluateCall parts frame function arguments position
  | .unary operator operand position =>
    ofOutcome position (unaryOperate operator (← parts.expression frame operand))
  | .binary operator left right position =>
    let a ← parts.expression frame left
    let b ← parts.expression frame right
    ofOutcome position (binaryOperate operator a b)
  | .shortcut kind left right _ =>
    let first ← parts.expression frame left
    match kind with
    | .orElse =>
      match first with
      | .unit => parts.expression frame right
      | value => return value
    | kind =>
      let first ← condition left.position first
      if first == (kind == .either) then return .bool first
      else return .bool (← condition right.position (← parts.expression frame right))
  | .chain (.name name _ position) [.method "is_shared" [] _ _] => isShared name position
  | .chain base steps => evaluateChain parts frame base steps none
  | .closure number captures _ =>
    let bound ← captures.mapM fun
      | .shared name position => share name position
      | .settled value => return value
    return .function (.lambda number) bound
  | .statement body _ => parts.statement frame body

end Cellbook.Script
