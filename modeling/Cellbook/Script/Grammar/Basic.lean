import Cellbook.Script.Lexer
import Cellbook.Script.Syntax

/-!
# Reading tokens

The state of a reader and its primitives.  A reader consumes tokens from the left and keeps track
of the names in scope: a name that is not in scope inside a closure is captured by it.

The grammar is stated one layer at a time: `Parts` are readers for what is nested inside a
construct, and every rule of the grammar is a reader in terms of them.  A `Context` counts how
deeply a construct is nested; `Context.deeper` refuses a text that goes too deep.
-/

namespace Cellbook.Script.Grammar

/-- A name in scope. -/
structure Local where
  name : String
  constant : Bool
  deriving Repr

/-- The state of a reader. -/
structure State where
  /-- What has not been read. -/
  tokens : List Placed
  /-- How many tokens there were. -/
  size : Nat
  /-- The names in scope, newest first. -/
  locals : List Local := []
  /-- How many names were in scope where the block began. -/
  outer : Nat := 0
  /-- The names that the closure being read captures, latest first. -/
  captures : List (String × Position) := []
  /-- The functions without names, latest first. -/
  lambdas : List Lambda := []
  /-- The named functions, latest first. -/
  functions : List Function := []

/-- What surrounds the construct being read. -/
structure Context where
  /-- Whether a loop is there to break. -/
  breakable : Bool := false
  /-- Whether the construct is in the body of a function or closure. -/
  inFunction : Bool := false
  /-- Whether the construct is a statement of the script itself. -/
  global : Bool := false
  /-- Whether a block holds one expression or assignment, and a case of a switch an expression. -/
  singleBlocks : Bool := false
  /-- Whether an operand is no block and no loop. -/
  restricted : Bool := false
  /-- Whether a bar separates alternatives and is no operator. -/
  alternatives : Bool := false
  /-- How many levels of nesting the construct is inside of. -/
  level : Nat := 0
  /-- How many levels of nesting there may be. -/
  maxLevel : Nat := 64
  /-- The number of the first function without a name. -/
  firstLambda : Nat := 0

/-- A reader. -/
abbrev Read := EStateM SyntaxFault State

/-- Readers for what is nested inside a construct. -/
structure Parts where
  expression : Context → Read Expr
  statement : Context → Read (Option Stmt)
  /-- A block, branch, switch or loop. -/
  compound : Context → Read Stmt
  block : Context → Read (List Stmt × Position)

/-- Reports a fault at a place. -/
def fail {α : Type} (cause : SyntaxCause) (position : Position) : Read α :=
  throw ⟨cause, some position⟩

/-- The context one level of nesting further in, for a construct that stands at a place. -/
def Context.deeper (context : Context) (position : Position) : Read Context := do
  if context.maxLevel ≤ context.level then fail .tooDeep position
  return { context with level := context.level + 1 }

/-- The next token, left in place. -/
def peek : Read Placed := do
  return (← get).tokens.headD ⟨.done, .start⟩

/-- The next token, consumed. -/
def next : Read Placed := do
  let token ← peek
  modify fun s => { s with tokens := s.tokens.drop 1 }
  return token

/-- Whether a token is the symbol with that spelling. -/
def isSymbol (spelling : String) (token : Placed) : Bool :=
  match token.token with
  | .symbol s => s == spelling
  | _ => false

/-- Whether the next token is the symbol with that spelling. -/
def sees (spelling : String) : Read Bool := do
  return isSymbol spelling (← peek)

/-- Consumes the symbol with that spelling, if it is next. -/
def accept (spelling : String) : Read Bool := do
  if ← sees spelling then
    let _ ← next
    return true
  else return false

/-- Reports what keeps the next token from being `spelling`. -/
def failMissing {α : Type} (spelling purpose : String) (found : Placed) : Read α :=
  match found.token with
  | .fault fault => throw fault
  | _ => fail (.missing spelling purpose) found.position

/-- Consumes the symbol with that spelling, which must be next. -/
def expect (spelling purpose : String) : Read Position := do
  let found ← peek
  if isSymbol spelling found then
    let _ ← next
    return found.position
  else failMissing spelling purpose found

/-- Consumes a name for a variable, which must be next. -/
def variableName : Read (String × Position) := do
  let found ← next
  match found.token with
  | .name name => return (name, found.position)
  | .reserved word =>
    if isWord word then fail (.reserved word) found.position
    else fail .variableExpected found.position
  | .fault fault => throw fault
  | _ => fail .variableExpected found.position

/-- Brings a name into scope. -/
def declareLocal (name : String) (constant : Bool) : Read Unit :=
  modify fun s => { s with locals := ⟨name, constant⟩ :: s.locals }

/-- The name in scope, if it is one. -/
def findLocal? (name : String) : Read (Option Local) := do
  return (← get).locals.find? (·.name == name)

/-- Notes a use of a name: one that is neither in scope nor that of a function is captured. -/
def noteUse (name : String) (position : Position) : Read Unit := do
  let state ← get
  if (← findLocal? name).isNone && !state.captures.any (·.1 == name) &&
      !state.functions.any (·.name == name) then
    modify fun s => { s with captures := (name, position) :: s.captures }

/-- Reads with names of its own, which end with it. -/
def enclosed {α : Type} (read : Read α) : Read α := do
  let before ← get
  modify fun s => { s with outer := s.locals.length }
  let result ← read
  modify fun s => { s with locals := before.locals, outer := before.outer }
  return result

/-- Reads in a scope that holds only the given names, and tells what it captures, in order. -/
def framed {α : Type} (names : List String) (read : Read α) :
    Read (α × List (String × Position)) := do
  let before ← get
  modify fun s =>
    { s with locals := (names.map fun n => ⟨n, false⟩).reverse, outer := 0, captures := [] }
  let result ← read
  let captures := (← get).captures.reverse
  modify fun s =>
    { s with locals := before.locals, outer := before.outer, captures := before.captures }
  return (result, captures)

/-- Takes steps until one gives a result, at most `fuel` of them. -/
def repeatUntil {σ α : Type} (step : σ → Read (Sum σ α)) : Nat → σ → Read α
  | 0, _ => do fail .incomplete (← peek).position
  | fuel + 1, state => do
    match ← step state with
    | .inl state => repeatUntil step fuel state
    | .inr result => return result

/-- Takes steps until one gives a result.  Every step but the last must consume a token. -/
def iterate {σ α : Type} (step : σ → Read (Sum σ α)) (state : σ) : Read α := do
  repeatUntil step ((← get).size + 1) state

/-- Reads items up to a closing symbol, with commas between them and perhaps after the last.
`before` checks the token before an item and `between` the token where a comma should be; `item` and
`before` are given the items so far, latest first. -/
def separated {α : Type} (closing : String) (before : List α → Placed → Read Unit)
    (item : List α → Read α) (between : Placed → Read Unit) : Read (List α) :=
  iterate (fun (items : List α) => do
    if ← accept closing then return .inr items.reverse
    before items (← peek)
    let items := (← item items) :: items
    if ← accept closing then return .inr items.reverse
    if ← accept "," then return .inl items
    between (← peek)
    return .inl items) []

/-- Refuses the end of the text. -/
def refuseEnd (closing purpose : String) (found : Placed) : Read Unit :=
  match found.token with
  | .done => fail (.missing closing purpose) found.position
  | _ => return ()

end Cellbook.Script.Grammar
