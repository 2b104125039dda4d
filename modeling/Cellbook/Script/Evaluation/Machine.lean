import Cellbook.Script.Library
import Cellbook.Script.Syntax

/-!
# The state of a running script

The variables in scope, the cells that closures share, what has been printed, and how many steps
have been taken.  A statement or expression ends with a value or an interrupt: a fault, or one of
the jumps out of loops, functions and the script.
-/

namespace Cellbook.Script

/-- A variable. -/
structure Binding where
  name : String
  constant : Bool
  value : Value
  deriving Inhabited

/-- A variable that closures share.  It holds no other cell. -/
structure Cell where
  value : Value
  constant : Bool
  isShared_value : value.isShared = false

/-- The value that a method was called on. -/
structure Receiver where
  value : Value
  constant : Bool

/-- The state of a running script. -/
structure Machine where
  /-- The variables in scope, newest first. -/
  scope : List Binding
  receiver : Option Receiver
  /-- The shared cells, by number. -/
  cells : List Cell
  /-- What has been printed, latest first. -/
  printed : List String
  steps : Nat

/-- What a script may call, and its budget of steps; none where it is zero. -/
structure Code where
  functions : List Function
  lambdas : List Lambda
  limit : Nat

/-- What surrounds a statement: the code, and how many calls it is inside of. -/
structure Frame where
  code : Code
  depth : Nat

/-- Whether a name stands for a function of the script. -/
def Frame.namesFunction (frame : Frame) (name : String) (bound : Bool) : Bool :=
  !bound && frame.code.functions.any (·.name == name)

/-- Why an evaluation ended without a value. -/
inductive Interrupt where
  | fault (fault : Fault)
  | breakLoop (value : Value)
  | continueLoop
  | leave (value : Value)
  | exit (value : Value)

/-- The interrupt after leaving a function that calls others, whatever its cause. -/
def Interrupt.left (function : String) (position : Position) : Interrupt → Interrupt
  | .fault cause => .fault (cause.left (some function) (some position))
  | interrupt => interrupt

/-- What became of a value that a computation may change, if it did, and how the computation
ended. -/
abbrev Ended := Option Value × Except Interrupt Value

/-- A computation of a running script. -/
abbrev Run := EStateM Interrupt Machine

/-- Evaluators for the parts of a construct, and how many turns a loop may take. -/
structure Evaluators where
  turns : Nat
  expression : Frame → Expr → Run Value
  statement : Frame → Stmt → Run Value

namespace Run

/-- Stops with a fault. -/
def fail {α : Type} (cause : Cause) (position : Position) : Run α :=
  throw (.fault { cause := cause, position := some position })

/-- The result of an outcome, or its fault. -/
def ofOutcome {α : Type} (position : Position) : Outcome α → Run α
  | .ok a => pure a
  | .error cause => fail cause position

/-- Counts a step. -/
def tick (frame : Frame) (position : Position) : Run Unit := do
  modify fun m => { m with steps := m.steps + 1 }
  if frame.code.limit != 0 && (← get).steps > frame.code.limit then
    fail .tooManyOperations position

/-- The outcome of a computation, as a value. -/
def attempt {α : Type} (run : Run α) : Run (Except Interrupt α) := fun m =>
  match run m with
  | .ok a m => .ok (.ok a) m
  | .error i m => .ok (.error i) m

/-- A computation whose interrupts are ends that changed nothing. -/
def ending (run : Run Ended) : Run Ended := do
  match ← attempt run with
  | .ok ended => return ended
  | .error i => return (none, .error i)

/-- The value of an outcome, or its interrupt. -/
def settle {α : Type} : Except Interrupt α → Run α
  | .ok a => pure a
  | .error i => throw i

/-- Forgets the variables that a computation leaves in scope. -/
def enclosed {α : Type} (run : Run α) : Run α := do
  let outer := (← get).scope.length
  let outcome ← attempt run
  modify fun m => { m with scope := m.scope.drop (m.scope.length - outer) }
  settle outcome

/-- Runs with other variables and another receiver, and tells how it ended and what became of the
receiver. -/
def inside {α : Type} (scope : List Binding) (receiver : Option Receiver) (run : Run α) :
    Run (Except Interrupt α × Option Receiver) := do
  let before ← get
  set { before with scope := scope, receiver := receiver }
  let outcome ← attempt run
  let after ← get
  set { after with scope := before.scope, receiver := before.receiver }
  return (outcome, after.receiver)

/-- The value that a value stands for. -/
def flatten : Value → Run Value
  | .shared cell => do return ((← get).cells[cell]?).elim .unit Cell.value
  | value => return value

/-- The newest variable of a name. -/
def find? (name : String) : Run (Option Binding) := do
  return (← get).scope.find? (·.name == name)

/-- Changes the newest variable of a name. -/
def updateBinding (name : String) (change : Binding → Binding) : List Binding → List Binding
  | [] => []
  | b :: rest => if b.name == name then change b :: rest else b :: updateBinding name change rest

/-- Puts a value into a variable, or into the cell it shares, which takes no other cell. -/
def assign (binding : Binding) (value : Value) : Run Unit :=
  match binding.value with
  | .shared cell =>
    if h : value.isShared = false then
      modify fun m =>
        { m with cells := m.cells.modify cell fun c => { c with value, isShared_value := h } }
    else pure ()
  | _ =>
    modify fun m =>
      { m with scope := updateBinding binding.name (fun b => { b with value := value }) m.scope }

/-- Brings a variable into scope. -/
def declare (name : String) (constant : Bool) (value : Value) : Run Unit :=
  modify fun m => { m with scope := ⟨name, constant, value⟩ :: m.scope }

/-- Brings a variable into scope in the place of the newest one of its name. -/
def redeclare (name : String) (constant : Bool) (value : Value) : Run Unit :=
  modify fun m =>
    { m with scope := updateBinding name (fun _ => ⟨name, constant, value⟩) m.scope }

/-- Makes a variable share its value with closures, and tells the cell. -/
def share (name : String) (position : Position) : Run Value := do
  match ← find? name with
  | none => fail (.variableNotFound name) position
  | some binding =>
    if h : binding.value.isShared = false then
      let cell := (← get).cells.length
      modify fun m =>
        { m with
          cells := m.cells ++ [⟨binding.value, binding.constant, h⟩]
          scope := updateBinding name (fun b => { b with value := .shared cell }) m.scope }
      return .shared cell
    else return binding.value

/-- The variable of a parameter: one that shares a cell is constant if the cell is. -/
def parameter (name : String) (value : Value) : Run Binding := do
  match value with
  | .shared cell => return ⟨name, ((← get).cells[cell]?).any Cell.constant, value⟩
  | _ => return ⟨name, false, value⟩

/-- Prints a line. -/
def print (text : String) : Run Unit :=
  modify fun m => { m with printed := (text ++ "\n") :: m.printed }

/-- The truth value of a condition. -/
def condition (position : Position) : Value → Run Bool
  | .bool b => return b
  | value => fail (.mismatch "bool" value.plainTypeName) position

end Run

end Cellbook.Script
