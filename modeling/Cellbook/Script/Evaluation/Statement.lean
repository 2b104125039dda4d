import Cellbook.Script.Evaluation.Expression

/-!
# Evaluating statements

A block forgets its variables, however it ends.  A loop without a body and without an end only uses
up the budget of steps.
-/

namespace Cellbook.Script

open Run

/-- Evaluates the statements of a block. -/
def evaluateBlock (parts : Evaluators) (frame : Frame) (body : List Stmt) : Run Value :=
  enclosed (sequence parts frame body)

/-- How a turn of a loop ended. -/
inductive Turn where
  | proceed
  | stop (value : Value)

/-- Takes one turn of a loop. -/
def takeTurn (parts : Evaluators) (frame : Frame) (body : List Stmt) : Run Turn := do
  match ← attempt (evaluateBlock parts frame body) with
  | .ok _ | .error .continueLoop => return .proceed
  | .error (.breakLoop value) => return .stop value
  | .error i => throw i

/-- Evaluates a condition. -/
def evaluateCondition (parts : Evaluators) (frame : Frame) (e : Expr) : Run Bool := do
  condition e.position (← parts.expression frame e)

/-- Takes turns as long as `before` and `after` hold, at most the given number. -/
def takeTurns (parts : Evaluators) (frame : Frame) (before after : Run Bool) (body : List Stmt)
    (position : Position) : Nat → Run Value
  | 0 => fail .tooManyOperations position
  | turns + 1 => do
    if ← before then
      tick frame position
      match ← takeTurn parts frame body with
      | .stop value => return value
      | .proceed =>
        if ← after then takeTurns parts frame before after body position turns
        else return .unit
    else return .unit

/-- Takes a turn for each value of a list. -/
def takeEach (parts : Evaluators) (frame : Frame) (name : String) (counter : Option String)
    (body : List Stmt) (position : Position) : Nat → List Value → Run Value
  | _, [] => return .unit
  | index, value :: rest => do
    tick frame position
    if let some counter := counter then
      if let some binding ← find? counter then assign binding (Library.count index)
    if let some binding ← find? name then assign binding value
    match ← takeTurn parts frame body with
    | .stop value => return value
    | .proceed => takeEach parts frame name counter body position (index + 1) rest

/-- Takes a turn for each of `length` integers from `low` on. -/
def takeRange (parts : Evaluators) (frame : Frame) (name : String) (counter : Option String)
    (body : List Stmt) (position : Position) (low : Int64) : Nat → Nat → Run Value
  | _, 0 => return .unit
  | index, length + 1 => do
    tick frame position
    if let some counter := counter then
      if let some binding ← find? counter then assign binding (Library.count index)
    if let some binding ← find? name then assign binding (.int (low + Int64.ofNat index))
    match ← takeTurn parts frame body with
    | .stop value => return value
    | .proceed => takeRange parts frame name counter body position low (index + 1) length

/-- Evaluates a loop over a collection. -/
def evaluateFor (parts : Evaluators) (frame : Frame) (name : String) (counter : Option String)
    (items : Expr) (body : List Stmt) (position : Position) : Run Value := do
  let collection ← parts.expression frame items
  let takeAll (values : List Value) : Run Value :=
    takeEach parts frame name counter body position 0 values
  enclosed do
    if let some counter := counter then declare counter false .unit
    declare name false .unit
    match collection with
    | .array values => takeAll values
    | .blob octets => takeAll (octets.map Library.ofOctet)
    | .text s => takeAll (s.toList.map Value.char)
    | .range low high closed =>
      let length := (high.toInt - low.toInt + if closed then 1 else 0).toNat
      takeRange parts frame name counter body position low 0 length
    | _ => fail .notIterable items.startPosition

/-- Whether a value is the one that a pattern names. -/
def isNamed (value : Value) : Pattern → Bool
  | .value v => v.same value
  | .range .. => false

/-- Whether a value is in the range that a pattern names, or is that range. -/
def isWithin (value : Value) : Pattern → Bool
  | .value _ => false
  | .range low high closed =>
    match value with
    | .int n => low ≤ n && if closed then n ≤ high else n < high
    | .float x =>
      let least := Integer.toReal low
      let greatest := Integer.toReal high
      least ≤ x && if closed then x ≤ greatest else x < greatest
    | value => value.same (.range low high closed)

/-- The first action among cases whose condition holds. -/
def firstAction (parts : Evaluators) (frame : Frame) : List Case → Run (Option Stmt)
  | [] => return none
  | .mk _ none action :: _ => return some action
  | .mk _ (some guard) action :: rest => do
    if ← evaluateCondition parts frame guard then return some action
    else firstAction parts frame rest

/-- Evaluates a switch: cases that name the value come first, then those whose range it is in. -/
def evaluateSwitch (parts : Evaluators) (frame : Frame) (subject : Expr) (cases : List Case)
    (otherwise : Option Stmt) : Run Value := do
  let value ← parts.expression frame subject
  let asking (asks : Pattern → Bool) : List Case := cases.filter fun
    | .mk patterns _ _ => patterns.any asks
  let chosen ← firstAction parts frame (asking (isNamed value) ++ asking (isWithin value))
  match chosen.or otherwise with
  | some action => evaluateBlock parts frame [action]
  | none => return .unit

/-- Evaluates a binding. -/
def evaluateDeclaration (parts : Evaluators) (frame : Frame) (name : String)
    (constant replaces : Bool) (value : Option Expr) : Run Value := do
  let value ← match value with
    | some e => parts.expression frame e
    | none => pure .unit
  if replaces then redeclare name constant value else declare name constant value
  return .unit

/-- Evaluates an assignment. -/
def evaluateAssignment (parts : Evaluators) (frame : Frame) (target : Expr)
    (operator : Option String) (value : Expr) (position : Position) : Run Value := do
  let assigned : Assigned := ⟨operator, ← parts.expression frame value, position⟩
  match target with
  | .name name bound place =>
    tick frame place
    if frame.namesFunction name bound then fail (.constantModified name) place
    match ← find? name with
    | none => fail (.variableNotFound name) place
    | some binding =>
      let (old, constant) ← current binding
      if constant then fail (.constantModified name) place
      assign binding (← ofOutcome position (assigned.over old))
      return .unit
  | .this place =>
    match (← get).receiver with
    | none => fail .unboundThis place
    | some receiver =>
      if receiver.constant then fail (.constantModified "") place
      let value ← ofOutcome position (assigned.over receiver.value)
      modify fun m => { m with receiver := some { receiver with value := value } }
      return .unit
  | .chain base steps => evaluateChain parts frame base steps (some assigned)
  | target => fail (.constantModified "") target.position

/-- Evaluates an attempt, for the value of its body or nothing.  A fault that a script may catch
runs the handler; a handler that throws nothing passes the fault on. -/
def evaluateAttempt (parts : Evaluators) (frame : Frame) (body : List Stmt)
    (name : Option String) (handler : List Stmt) : Run Value := do
  match ← attempt (evaluateBlock parts frame body) with
  | .ok value => return value
  | .error (.fault fault) =>
    if !fault.catchable then throw (.fault fault)
    let outcome ← attempt <| enclosed do
      if let some name := name then declare name false fault.caught
      evaluateBlock parts frame handler
    match outcome with
    | .ok _ => return .unit
    | .error (.fault again) =>
      match again.cause, again.calls with
      | .thrown .unit, [] => throw (.fault (fault.withLastPosition again.position))
      | _, _ => throw (.fault again)
    | .error i => throw i
  | .error i => throw i

/-- Evaluates an expression that may be missing. -/
def evaluateOptional (parts : Evaluators) (frame : Frame) (e : Option Expr) : Run Value :=
  match e with
  | some e => parts.expression frame e
  | none => return .unit

/-- Evaluates a statement. -/
def evaluateStatement (parts : Evaluators) (frame : Frame) (statement : Stmt) : Run Value := do
  tick frame statement.position
  match statement with
  | .expression e => parts.expression frame e
  | .declare name constant replaces value _ =>
    evaluateDeclaration parts frame name constant replaces value
  | .assign target operator value position =>
    evaluateAssignment parts frame target operator value position
  | .block body _ => evaluateBlock parts frame body
  | .branch guard yes no _ =>
    if ← evaluateCondition parts frame guard then evaluateBlock parts frame yes
    else evaluateBlock parts frame no
  | .switch subject cases otherwise _ => evaluateSwitch parts frame subject cases otherwise
  | .whileLoop guard body bodyPosition _ =>
    let before := guard.elim (pure true) (evaluateCondition parts frame)
    takeTurns parts frame before (pure true) body bodyPosition parts.turns
  | .doLoop body guard wanted bodyPosition _ =>
    let after : Run Bool := do return (← evaluateCondition parts frame guard) == wanted
    takeTurns parts frame (pure true) after body bodyPosition parts.turns
  | .forLoop name counter items body bodyPosition _ =>
    evaluateFor parts frame name counter items body bodyPosition
  | .breakLoop value _ => throw (.breakLoop (← evaluateOptional parts frame value))
  | .continueLoop _ => throw .continueLoop
  | .returnValue value _ => throw (.leave (← evaluateOptional parts frame value))
  | .throwValue value position =>
    fail (.thrown (← evaluateOptional parts frame value)) position
  | .attempt body name handler _ => evaluateAttempt parts frame body name handler

/-- The evaluators, `fuel` layers of nesting deep and with as many turns for a loop. -/
def evaluators : Nat → Evaluators
  | 0 =>
    { turns := 0
      expression := fun _ e => fail .tooManyOperations e.position
      statement := fun _ s => fail .tooManyOperations s.position }
  | fuel + 1 =>
    { turns := fuel
      expression := fun frame e => evaluateExpression (evaluators fuel) frame e
      statement := fun frame s => evaluateStatement (evaluators fuel) frame s }

/-- Runs the statements of a script, for the value of the last or the one it left with. -/
def runStatements (code : Code) (fuel : Nat) (body : List Stmt) : Run Value := do
  match ← attempt (sequence (evaluators fuel) ⟨code, 0⟩ body) with
  | .ok value | .error (.leave value) | .error (.exit value) => return value
  | .error i => throw i

end Cellbook.Script
