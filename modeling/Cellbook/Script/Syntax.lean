import Cellbook.Script.Position
import Cellbook.Script.Value

/-!
# Syntax

Expressions and statements as a reader leaves them.  Positions are those that messages tell.  A
chain is a base with the steps taken from it; a closure is told by its number and by what it
captures.

Some of the language is left out.  There are no modules: `import` and `export` are keywords that no
statement begins with, and `::` joins no names.  A function is for receivers of every type: none is
defined with the name of a type before its own.  A text that has any of these cannot be read.
-/

namespace Cellbook.Script

/-- The operators that may leave their right operand unevaluated. -/
inductive Shortcut where
  | both | either | orElse
  deriving Repr, DecidableEq

/-- What a case of a switch is compared with. -/
inductive Pattern where
  | value (value : Value)
  | range (low high : Int64) (closed : Bool)
  deriving Repr

/-- What a closure captures: a variable, or the value of a constant, settled ahead. -/
inductive Capture where
  | shared (name : String) (position : Position)
  | settled (value : Value)
  deriving Repr

/-- The value of a capture, where that is settled. -/
def Capture.value? : Capture → Option Value
  | settled value => some value
  | shared _ _ => none

mutual

/-- An expression. -/
inductive Expr where
  | literal (value : Value) (position : Position)
  /-- Text with embedded expressions. -/
  | embedded (segments : List Expr) (position : Position)
  | array (items : List Expr) (position : Position)
  | map (entries : List (String × Expr)) (position : Position)
  /-- A name; one that nothing before it in the script has bound may also name a function. -/
  | name (name : String) (bound : Bool) (position : Position)
  | this (position : Position)
  | call (function : String) (arguments : List Expr) (position : Position)
  | unary (operator : String) (operand : Expr) (position : Position)
  | binary (operator : String) (left right : Expr) (position : Position)
  | shortcut (kind : Shortcut) (left right : Expr) (position : Position)
  | chain (base : Expr) (steps : List Step)
  /-- A function without a name and what it captures. -/
  | closure (number : Nat) (captures : List Capture) (position : Position)
  /-- A statement whose value is used. -/
  | statement (body : Stmt) (position : Position)

/-- A step of a chain; an optional one ends the chain at a base that is `()`. -/
inductive Step where
  | property (name : String) (optional : Bool) (position : Position)
  | method (name : String) (arguments : List Expr) (optional : Bool) (position : Position)
  /-- An index, where it begins, and its bracket. -/
  | index (index : Expr) (optional : Bool) (position bracket : Position)

/-- A statement. -/
inductive Stmt where
  | expression (expression : Expr)
  /-- A binding; one that `replaces` takes the place of the newest binding of its name. -/
  | declare (name : String) (constant replaces : Bool) (value : Option Expr) (position : Position)
  | assign (target : Expr) (operator : Option String) (value : Expr) (position : Position)
  | block (body : List Stmt) (position : Position)
  | branch (condition : Expr) (yes no : List Stmt) (position : Position)
  | switch (subject : Expr) (cases : List Case) (otherwise : Option Stmt) (position : Position)
  /-- A loop that tests its condition, if it has one, before each turn. -/
  | whileLoop (condition : Option Expr) (body : List Stmt) (bodyPosition position : Position)
  /-- A loop that tests its condition after each turn and goes on while it is `wanted`. -/
  | doLoop (body : List Stmt) (condition : Expr) (wanted : Bool) (bodyPosition position : Position)
  | forLoop (name : String) (counter : Option String) (items : Expr) (body : List Stmt)
      (bodyPosition position : Position)
  | breakLoop (value : Option Expr) (position : Position)
  | continueLoop (position : Position)
  | returnValue (value : Option Expr) (position : Position)
  | throwValue (value : Option Expr) (position : Position)
  | attempt (body : List Stmt) (name : Option String) (handler : List Stmt) (position : Position)

/-- A case of a switch. -/
inductive Case where
  | mk (patterns : List Pattern) (guard : Option Expr) (action : Stmt)

end

instance : Inhabited Expr := ⟨.literal .unit .start⟩

instance : Inhabited Stmt := ⟨.expression default⟩

namespace Step

/-- The place of a step. -/
def position : Step → Position
  | property _ _ position | method _ _ _ position | index _ _ position _ => position

/-- Whether a step ends the chain at a base that is `()`. -/
def optional : Step → Bool
  | property _ optional _ | method _ _ optional _ | index _ optional _ _ => optional

end Step

namespace Expr

/-- The place that messages about the outcome of an expression tell. -/
def position : Expr → Position
  | literal _ p | embedded _ p | array _ p | map _ p | name _ _ p | this p | call _ _ p
  | unary _ _ p | binary _ _ _ p | shortcut _ _ _ p | closure _ _ p | statement _ p => p
  | chain base steps => steps.head?.elim base.position Step.position

/-- The place that messages about the form of an expression tell: for shortcuts and chains, where
they begin. -/
def startPosition : Expr → Position
  | shortcut _ left _ _ => left.startPosition
  | chain base _ => base.startPosition
  | e => e.position

/-- The value that the form of an expression settles, where it is at most `depth`
constructs deep. -/
def literalValue? : Nat → Expr → Option Value
  | 0, _ => none
  | depth + 1, e =>
    match e with
    | literal value _ => some value
    | array items _ => (items.mapM (literalValue? depth)).map Value.array
    | map entries _ =>
      (entries.mapM fun entry => (literalValue? depth entry.2).map (entry.1, ·)).map Value.ofEntries
    | closure number captures _ =>
      (captures.mapM Capture.value?).map (Value.function (.lambda number))
    | _ => none

end Expr

namespace Stmt

/-- The place of a statement. -/
def position : Stmt → Position
  | expression e => e.position
  | declare _ _ _ _ p | assign _ _ _ p | block _ p | branch _ _ _ p | switch _ _ _ p
  | whileLoop _ _ _ p | doLoop _ _ _ _ p | forLoop _ _ _ _ _ p | breakLoop _ p | continueLoop p
  | returnValue _ p | throwValue _ p | attempt _ _ _ p => p

/-- Whether a statement ends by itself, without a semicolon after it. -/
def endsItself : Stmt → Bool
  | block _ _ | branch _ _ _ _ | switch _ _ _ _ | whileLoop _ _ _ _ | forLoop _ _ _ _ _ _
  | attempt _ _ _ _ => true
  | _ => false

end Stmt

/-- A function without a name: its parameters, the captured names first, and its body. -/
structure Lambda where
  parameters : List String
  body : List Stmt
  deriving Inhabited

/-- A named function. -/
structure Function where
  name : String
  parameters : List String
  body : List Stmt
  deriving Inhabited

/-- A program: its functions, in the order of their definitions, the functions without names, by
number from the first new one, and its statements. -/
structure Program where
  functions : List Function
  lambdas : List Lambda
  body : List Stmt
  deriving Inhabited

end Cellbook.Script
