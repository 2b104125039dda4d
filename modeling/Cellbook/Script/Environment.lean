import Cellbook.Script.Evaluation.Statement
import Cellbook.Script.Parse
import Cellbook.Script.Simplify

/-!
# Environments

What a notebook remembers between scripts: its variables, the functions it has defined, the cells
that closures share and the code of closures.

* `run` reads a program, defines its functions, runs its statements and then compacts the variables.
  A program that cannot be read leaves the environment as it was.
* `evaluate?` reads a single expression and answers its value; it defines nothing.
* `compact` keeps the newest variable of every name.  Where that drops any, the variables kept hold
  copies of their values and share no cells.

A source is any text at all.  One that uses what is left out of the language (`Script.Syntax`,
`Script.Library`) is a source that cannot be read, or that calls a function that does not exist.
-/

namespace Cellbook.Script

/-- What a notebook remembers between scripts. -/
structure Environment where
  /-- The variables, newest first. -/
  scope : List Binding := []
  /-- The functions defined so far. -/
  library : List Function := []
  /-- The cells that closures share, by number. -/
  cells : List Cell := []
  /-- The functions without names, by number. -/
  lambdas : List Lambda := []

/-- How much nesting and how many turns of a loop an evaluation may take. -/
def ample : Nat := 1000000000

/-- What running a program leaves: the environment, what was printed, in order, and the value or the
fault it ended with. -/
structure Ran (α : Type) where
  environment : Environment
  printed : List String
  outcome : Except Fault α

namespace Environment

/-- The environment in which nothing has run. -/
def empty : Environment := {}

/-- The value that a value stands for. -/
def flatten (environment : Environment) : Value → Value
  | .shared cell => ((environment.cells[cell]?).elim .unit Cell.value)
  | value => value

/-- The newest variable of a name. -/
def find? (environment : Environment) (name : String) : Option Binding :=
  environment.scope.find? (·.name == name)

/-- The value of a variable. -/
def get? (environment : Environment) (name : String) : Option Value :=
  (environment.find? name).map fun b => environment.flatten b.value

/-- Whether a name is bound. -/
def contains (environment : Environment) (name : String) : Bool :=
  (environment.find? name).isSome

/-- The number of variables. -/
def size (environment : Environment) : Nat := environment.scope.length

/-- The first variable of each name that is not among the names seen. -/
def newest (seen : List String) : List Binding → List Binding
  | [] => []
  | b :: rest =>
    if seen.contains b.name then newest seen rest else b :: newest (b.name :: seen) rest

/-- Keeps the newest variable of every name. -/
def compact (environment : Environment) : Environment :=
  let kept := newest [] environment.scope
  if kept.length == environment.scope.length then environment
  else
    { environment with
      scope := kept.map fun b => { b with value := environment.flatten b.value } }

/-- The names of the variables, newest first, with the values of those that are constant. -/
def known (environment : Environment) : Simplify.Known :=
  environment.scope.map fun b =>
    (b.name, if b.constant then some (environment.flatten b.value) else none)

/-- Adds a function, in place of one with the same name and number of parameters. -/
def define (library : List Function) (f : Function) : List Function :=
  f :: library.filter fun g => !(g.name == f.name && g.parameters.length == f.parameters.length)

/-- Runs the statements of a program with a library of functions. -/
def execute (limit : Nat) (environment : Environment) (library : List Function) (program : Program) :
    Ran Value :=
  let lambdas := environment.lambdas ++ program.lambdas
  let code : Code := ⟨library, lambdas, limit⟩
  let machine : Machine :=
    { scope := environment.scope, receiver := none, cells := environment.cells, printed := [],
      steps := 0 }
  let leaving (m : Machine) (outcome : Except Fault Value) : Ran Value :=
    { environment := { environment with scope := m.scope, cells := m.cells, lambdas := lambdas }
      printed := m.printed.reverse
      outcome := outcome }
  match (runStatements code ample program.body).run machine with
  | .ok value m => leaving m (.ok value)
  | .error (.fault fault) m => leaving m (.error fault)
  | .error _ m => leaving m (.ok .unit)

/-- Reads a source text, and simplifies what was read. -/
def read (reader : Nat → String → Except SyntaxFault Program) (environment : Environment)
    (source : String) : Except SyntaxFault Program :=
  (reader environment.lambdas.length source).map
    (Simplify.simplifyProgram (source.length + 1) environment.known)

/-- Runs a source text as statements, without compacting. -/
def runLoose (limit : Nat) (environment : Environment) (source : String) :
    Except SyntaxFault (Ran Value) :=
  (environment.read parseScript source).map fun program =>
    let library := program.functions.foldl define environment.library
    execute limit { environment with library := library } library program

/-- Runs a source text as statements. -/
def run (limit : Nat) (environment : Environment) (source : String) :
    Except SyntaxFault (Ran Value) :=
  (environment.runLoose limit source).map fun ran =>
    { ran with environment := ran.environment.compact }

/-- Evaluates a source text as a single expression; nothing where it is none. -/
def evaluate? (limit : Nat) (environment : Environment) (source : String) : Option (Ran Value) :=
  (environment.read parseExpression source).toOption.map fun program =>
    execute limit environment environment.library program

end Environment

/-- How the value of a cell is shown: `()` is absent, octets may be an image, a value built to be
shown brings its representations, and any other value is text. -/
instance : Represent Value where
  represent
    | .unit => { text := "()", absent := true }
    | .blob octets => { text := listOctets octets, bytes := some octets }
    | .rich rich => { text := rich.shownText, offers := rich.offers }
    | value => { text := value.exact }

end Cellbook.Script
