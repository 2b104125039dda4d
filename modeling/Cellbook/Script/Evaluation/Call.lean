import Cellbook.Script.Evaluation.Machine

/-!
# Calls

A function is told by its name and the number of its arguments.  Functions that the script defines
come first; they see their parameters, the receiver of a method call, and nothing else.  Then come
the functions every script has, among them those that print and those that call other functions.
-/

namespace Cellbook.Script

open Run

/-- How deeply calls may nest. -/
def maxDepth : Nat := 64

/-- The function of a name with a number of parameters. -/
def Code.function? (code : Code) (name : String) (arity : Nat) : Option Function :=
  code.functions.find? fun f => f.name == name && f.parameters.length == arity

/-- Evaluates statements in order and answers the value of the last. -/
def sequence (parts : Evaluators) (frame : Frame) : List Stmt → Run Value
  | [] => return .unit
  | [statement] => parts.statement frame statement
  | statement :: rest => do
    let _ ← parts.statement frame statement
    sequence parts frame rest

/-- Evaluates the body of a function, which may change the receiver. -/
def enter (parts : Evaluators) (frame : Frame) (name : Option String) (parameters : List String)
    (body : List Stmt) (receiver : Option Receiver) (arguments : List Value)
    (position : Position) : Run Ended := ending do
  tick frame position
  if frame.depth + 1 > maxDepth then fail .stackOverflow position
  let scope ← (parameters.zip arguments).mapM fun (name, value) => parameter name value
  let inner := { frame with depth := frame.depth + 1 }
  let (outcome, receiver) ← inside scope.reverse receiver (sequence parts inner body)
  let outcome :=
    match outcome with
    | .error (.leave value) => .ok value
    | .error (.fault fault) => .error (.fault (fault.leaving name (some position)))
    | outcome => outcome
  return (receiver.map Receiver.value, outcome)

/-- Calls a function that the script defines. -/
def callFunction (parts : Evaluators) (frame : Frame) (f : Function) (receiver : Option Receiver)
    (arguments : List Value) (position : Position) : Run Ended :=
  enter parts frame (some f.name) f.parameters f.body receiver arguments position

/-- Calls a function without a name. -/
def callLambda (parts : Evaluators) (frame : Frame) (number : Nat) (receiver : Option Receiver)
    (arguments : List Value) (position : Position) : Run Ended := do
  let missing : Run Ended := ending (ofOutcome position (unknown (Callee.lambda number).name arguments))
  match frame.code.lambdas[number]? with
  | some lambda =>
    if lambda.parameters.length == arguments.length then
      enter parts frame none lambda.parameters lambda.body receiver arguments position
    else missing
  | none => missing

/-- A way to call a function for an item of a collection: the receiver and the arguments. -/
structure Approach where
  receiver : Option Receiver
  arguments : List Value

/-- The ways to call a function for an item that is the receiver or, after the arguments, one of
them; what is `extra` comes last. -/
def movingApproaches (item : Receiver) (arguments extra : List Value) : List Approach :=
  let moved := arguments ++ [item.value]
  [⟨some item, arguments⟩, ⟨none, moved⟩, ⟨none, moved ++ extra⟩]

/-- The ways to call a function for an item that is always the receiver. -/
def receivingApproaches (item : Receiver) (arguments extra : List Value) : List Approach :=
  [⟨some item, arguments⟩, ⟨some item, arguments ++ extra⟩]

/-- Visits items in turn, as long as `step` wants to go on, and tells how they are left.  `called`
calls a function for an item at a place, given what `step` has made of the answers before; `visited`
holds the items already left, latest first. -/
def visitItems {α : Type} (called : α → Nat → Value → Run Ended)
    (step : α → Nat → Value → Value → α × Bool) (visited : List Value) (so : α) :
    Nat → List Value → Run (List Value × Except Interrupt α)
  | _, [] => return (visited.reverse, .ok so)
  | index, item :: rest => do
    let (after, outcome) ← called so index item
    let item := after.getD item
    match outcome with
    | .error i => return (visited.reverseAux (item :: rest), .error i)
    | .ok answer =>
      let (so, proceeds) := step so index item answer
      if proceeds then visitItems called step (item :: visited) so (index + 1) rest
      else return (visited.reverseAux (item :: rest), .ok so)

/-- Calls a function value in one of several ways. -/
abbrev CallFor := Callee → List Value → List Approach → Run Ended

/-- The function that an argument stands for: a function value, or the name of a function; nothing
for a value of another type. -/
def asFunction? : Value → Option (Outcome (Callee × List Value))
  | .function callee bound => some (.ok (callee, bound))
  | .text name => some ((Library.functionNamed name).map fun callee => (callee, []))
  | _ => none

/-- The functions that call another for each item of a collection, which those calls may change;
nothing where none fits.  The items of a constant are constant. -/
def callVisitor? (callFor : CallFor) (constant : Bool) (name : String) (arguments : List Value)
    (position : Position) : Option (Run Ended) :=
  let receiver (item : Value) : Receiver := ⟨item, constant⟩
  let failing (label : String) (outcome : Except Interrupt Value) : Except Interrupt Value :=
    outcome.mapError (Interrupt.left label position)
  let place (index : Nat) : List Value := [Library.count index]
  match name, arguments with
  | "map", [.array items, f] => (asFunction? f).map fun f => do
    let (callee, bound) ← ofOutcome position f
    let (items, outcome) ← visitItems
      (fun _ index item => callFor callee bound (movingApproaches (receiver item) [] (place index)))
      (fun results _ _ answer => (answer :: results, true)) [] [] 0 items
    return (some (.array items), failing name (outcome.map fun r => .array r.reverse))
  | "filter", [.array items, f] => (asFunction? f).map fun f => do
    let (callee, bound) ← ofOutcome position f
    let (items, outcome) ← visitItems
      (fun _ index item => callFor callee bound (movingApproaches (receiver item) [] (place index)))
      (fun kept _ item answer =>
        match answer with
        | .bool true => (item :: kept, true)
        | _ => (kept, true)) [] [] 0 items
    return (some (.array items), failing name (outcome.map fun r => .array r.reverse))
  | "reduce", .array items :: f :: initial =>
    if initial.length > 1 then none
    else (asFunction? f).map fun f => do
      let (callee, bound) ← ofOutcome position f
      let (items, outcome) ← visitItems
        (fun result index item =>
          callFor callee bound (movingApproaches (receiver item) [result] (place index)))
        (fun _ _ _ answer => (answer, true)) [] (initial.headD .unit) 0 items
      return (some (.array items), failing name outcome)
  | "index_of", .array items :: .function callee bound :: start =>
    let search (start : Nat) : Run Ended := do
      let (rest, outcome) ← visitItems
        (fun _ index item => callFor callee bound (movingApproaches (receiver item) [] (place index)))
        (fun found index _ answer =>
          match answer with
          | .bool true => (some index, false)
          | _ => (found, true)) [] none start (items.drop start)
      return (some (.array (items.take start ++ rest)),
        failing name (outcome.map Library.placeValue))
    match start with
    | [] => some (search 0)
    | [.int start] => some (search (Library.clampedPlace items.length start.toInt))
    | _ => none
  | "map", [.map entries, .function callee bound] => some do
    let keys := entries.map Prod.fst
    let key (index : Nat) : Value := .text (keys.getD index "")
    let (items, outcome) ← visitItems
      (fun _ index item =>
        callFor callee bound (receivingApproaches (receiver item) [key index] [item]))
      (fun results _ _ answer => (answer :: results, true)) [] [] 0 (entries.map Prod.snd)
    return (some (.map (keys.zip items)),
      failing "filter" (outcome.map fun r => .map (keys.zip r.reverse)))
  | "filter", [.map entries, .function callee bound] => some do
    let keys := entries.map Prod.fst
    let (items, outcome) ← visitItems
      (fun _ index item =>
        let key : Value := .text (keys.getD index "")
        callFor callee bound (receivingApproaches (receiver item) [key] [item]))
      (fun kept index item answer =>
        match answer with
        | .bool true => ((keys.getD index "", item) :: kept, true)
        | _ => (kept, true)) [] [] 0 (entries.map Prod.snd)
    return (some (.map (keys.zip items)), failing name (outcome.map fun r => .map r.reverse))
  | _, _ => none

/-- What a function that every script has answers, and what becomes of its first argument if that
changes; nothing where no such function fits.  A constant is refused where it would change. -/
def callLibrary? (callFor : CallFor) (constant : Bool) (name : String) (arguments : List Value)
    (position : Position) : Option (Run Ended) :=
  let answer (run : Run Value) : Option (Run Ended) := some (do return (none, .ok (← run)))
  let plain : Option (Run Ended) :=
    (Library.call? name arguments).map fun outcome => do
      return (none, .ok (← ofOutcome position outcome))
  match callVisitor? callFor constant name arguments position with
  | some run => some run
  | none =>
    match name, arguments with
    | "print", [] | "debug", [] => answer do
      print ""
      return .unit
    | "print", [value] => answer do
      print value.printed
      return .unit
    | "debug", [value] => answer do
      print value.debugged
      return .unit
    | "exit", [] => answer (throw (.exit .unit))
    | "exit", [value] => answer (throw (.exit value))
    | _, [] => plain
    | _, first :: rest =>
      match Library.change? name first rest with
      | some (changed, value) => some do
        if constant then fail (.constantReceiver name) position
        return (some changed, .ok value)
      | none => plain

/-- A call of a function that every script has, out of a function of that kind: it has no functions
to call. -/
def callNowhere (position : Position) : CallFor := fun callee _ approaches =>
  ending (ofOutcome position
    (unknown callee.name ((approaches.getLast?).elim [] Approach.arguments)))

/-- The function of a name that fits an approach, if there is one. -/
def callApproach? (parts : Evaluators) (frame : Frame) (position : Position) (name : String)
    (bound : List Value) (approach : Approach) : Option (Run Ended) :=
  let arguments := bound ++ approach.arguments
  match frame.code.function? name arguments.length with
  | some f => some (callFunction parts frame f approach.receiver arguments position)
  | none =>
    let (constant, given) :=
      match approach.receiver with
      | some receiver => (receiver.constant, receiver.value :: arguments)
      | none => (false, arguments)
    callLibrary? (callNowhere position) constant name given position

/-- Calls a function value for an item, in the first of several ways that the function fits.  The
call of a named function nests one level deeper than that of one without a name. -/
def callFor (parts : Evaluators) (frame : Frame) (position : Position) : CallFor :=
  fun callee bound approaches =>
    match callee with
    | .lambda number =>
      let arity := (frame.code.lambdas[number]?).elim 0 fun l => l.parameters.length - bound.length
      let fitting := approaches.find? fun a => a.arguments.length == arity
      match fitting.or approaches.getLast? with
      | some approach =>
        callLambda parts frame number approach.receiver (bound ++ approach.arguments) position
      | none => return (none, .ok .unit)
    | .named name =>
      let frame := { frame with depth := frame.depth + 1 }
      match approaches.findSome? (callApproach? parts frame position name bound) with
      | some run => ending run
      | none =>
        ending (ofOutcome position
          (unknown name (bound ++ (approaches.getLast?).elim [] Approach.arguments)))

/-- Calls a function that every script has. -/
def callNative (parts : Evaluators) (frame : Frame) (constant : Bool) (name : String)
    (arguments : List Value) (position : Position) : Run Ended := ending do
  tick frame position
  let inner := { frame with depth := frame.depth + 1 }
  match callLibrary? (callFor parts inner position) constant name arguments position with
  | some run => run
  | none => ofOutcome position (unknown name arguments)

/-- Calls a function by its name; one that every script has may change its first argument. -/
def callNamed (parts : Evaluators) (frame : Frame) (name : String) (arguments : List Value)
    (position : Position) : Run Ended := do
  match frame.code.function? name arguments.length with
  | some f => callFunction parts frame f none arguments position
  | none => callNative parts frame false name arguments position

/-- Calls a function value, which may change the receiver. -/
def callValue (parts : Evaluators) (frame : Frame) (callee : Callee) (bound : List Value)
    (receiver : Option Receiver) (arguments : List Value) (position : Position) : Run Ended := do
  match callee, receiver with
  | .lambda number, receiver =>
    callLambda parts frame number receiver (bound ++ arguments) position
  | .named name, none =>
    let bound ← bound.mapM flatten
    return (none, (← callNamed parts frame name (bound ++ arguments) position).2)
  | .named name, some receiver =>
    let arguments := (← bound.mapM flatten) ++ arguments
    match frame.code.function? name arguments.length with
    | some f => callFunction parts frame f (some receiver) arguments position
    | none =>
      callNative parts frame receiver.constant name (receiver.value :: arguments) position

/-- The fault of a value where a function value must be. -/
def noFunction (value : Value) (position : Position) : Run Ended :=
  ending (fail (.mismatch "Fn" value.typeName) position)

/-- Calls a method, which may change the receiver; `place` is that of its first argument.  A
function value under its name in a map comes before other functions. -/
def callMethod (parts : Evaluators) (frame : Frame) (receiver : Receiver) (name : String)
    (arguments : List Value) (place position : Position) : Run Ended := do
  let own :=
    match receiver.value with
    | .map entries => entries.lookup name
    | _ => none
  match name, receiver.value, arguments, own with
  | "call", .function callee bound, _, _ =>
    callValue parts frame callee bound none arguments position
  | "call", _, .function callee bound :: rest, _ =>
    callValue parts frame callee bound (some receiver) rest position
  | "call", _, argument :: _, _ => noFunction argument place
  | "call", value, [], _ => noFunction value position
  | "curry", .function callee bound, _, _ =>
    return (none, .ok (.function callee (bound ++ arguments)))
  | "curry", value, _, _ => noFunction value position
  | _, _, _, some (.function callee bound) =>
    callValue parts frame callee bound (some receiver) arguments position
  | _, value, _, _ =>
    match frame.code.function? name arguments.length with
    | some f => callFunction parts frame f (some receiver) arguments position
    | none => callNative parts frame receiver.constant name (value :: arguments) position

end Cellbook.Script
