import Cellbook.Script.Grammar.Expression

/-!
# The grammar of statements

Blocks, bindings, branches, loops, functions and assignments, and the sequence of statements that
makes a program.  Modules and functions for receivers of one type are left out; where one begins,
the text cannot be read.
-/

namespace Cellbook.Script.Grammar

/-- What must separate a statement from the next one. -/
def terminate (statement : Stmt) : Read Unit := do
  if !statement.endsItself then
    let _ ← expect ";" "to terminate this statement"

/-- Reads a block of statements up to its closing brace. -/
def blockBody (parts : Parts) (context : Context) : Read (List Stmt) :=
  iterate (fun (body : List Stmt) => do
    if ← accept "\x7d" then return .inr body.reverse
    refuseEnd "\x7d" "to terminate this block" (← peek)
    match ← parts.statement { context with global := false } with
    | none => return .inl body
    | some statement =>
      let body := statement :: body
      if ← accept "\x7d" then return .inr body.reverse
      if !(← accept ";") then terminate statement
      return .inl body) []

/-- The place that keeps a chain from being assigned to: a call among its steps. -/
def unassignable? (taken : List Step) : Option Position :=
  taken.findSome? fun
    | .method _ _ _ position => some position
    | _ => none

/-- Refuses a target that cannot be assigned to. -/
def checkTarget (target : Expr) (combining : Bool) (position : Position) : Read Unit := do
  match target with
  | .this _ => return ()
  | .name name _ place =>
    if (← findLocal? name).any Local.constant then fail (.assignmentToConstant name) place
  | .chain base taken =>
    match unassignable? taken, base with
    | some bad, _ => fail .assignmentToValue bad
    | none, .name _ _ _ | none, .this _ => return ()
    | none, base => fail .assignmentToValue base.position
  | .shortcut _ _ _ place =>
    if combining then fail .assignmentToValue place
    else fail (.improper "Possibly a typo of '=='?") position
  | target =>
    if (target.literalValue? 64).isSome then
      fail (.assignmentToConstant "") target.startPosition
    else fail .assignmentToValue target.position

/-- Reads an expression or an assignment. -/
def expressionStatement (parts : Parts) (context : Context) : Read Stmt := do
  let target ← parts.expression context
  if ← seesAssignment then
    let found ← next
    let value ← parts.expression context
    let operator :=
      match found.token with
      | .symbol spelling =>
        if spelling == "=" then none else some (String.ofList spelling.toList.dropLast)
      | _ => none
    checkTarget target operator.isSome found.position
    return .assign target operator value found.position
  else return .expression target

/-- Reads a block. -/
def block (parts : Parts) (context : Context) : Read (List Stmt × Position) := do
  let position ← expect "\x7b" "to start a statement block"
  let inner ← context.deeper position
  let body ← enclosed do
    if context.singleBlocks then
      let statement ← expressionStatement parts inner
      let _ ← expect "\x7d" "to terminate this block"
      return [statement]
    else blockBody parts inner
  return (body, position)

/-- Refuses a block where a condition or a collection must stand. -/
def refuseBlock : Read Unit := do
  let found ← peek
  if isSymbol "\x7b" found then fail (.expressionExpected "a boolean") found.position

/-- Refuses an assignment sign after a condition. -/
def refuseAssignment : Read Unit := do
  let found ← peek
  if isSymbol "=" found then fail (.improper "Possibly a typo of '=='?") found.position

/-- Reads the condition of a branch or a loop. -/
def condition (parts : Parts) (context : Context) : Read Expr := do
  refuseBlock
  let e ← asCondition (← parts.expression context)
  refuseAssignment
  return e

/-- Reads a branch after its keyword. -/
def branch (parts : Parts) (context : Context) (position : Position) : Read Stmt := do
  let guard ← condition parts context
  let (yes, _) ← parts.block context
  if ← accept "else" then
    if ← sees "if" then return .branch guard yes [← parts.compound context] position
    else
      let (no, _) ← parts.block context
      return .branch guard yes no position
  else return .branch guard yes [] position

/-- The pattern of a case, where the form of the expression settles one. -/
def pattern? : Expr → Option Pattern
  | .binary ".." (.literal (.int low) _) (.literal (.int high) _) _ =>
    some (.range low high false)
  | .binary "..=" (.literal (.int low) _) (.literal (.int high) _) _ =>
    some (.range low high true)
  | e => (e.literalValue? 64).map Pattern.value

/-- Whether a range holds no integer. -/
def isEmptyRange (low high : Int64) (closed : Bool) : Bool :=
  if closed then high < low else high ≤ low

/-- Reads the alternatives of a case. -/
def alternatives (parts : Parts) (context : Context) : Read (List Expr) :=
  iterate (fun (taken : List Expr) => do
    let before ← get
    let inner := { context with alternatives := true }
    match (parts.expression inner).run before with
    | .error fault _ => throw ⟨.expressionExpected "literal", fault.position⟩
    | .ok e after =>
      set after
      if ← accept "|" then return .inl (e :: taken)
      else return .inr (e :: taken).reverse) []

/-- What has been read of a switch: its cases, latest first, its default, and whether a case that
is a range came before. -/
structure Switching where
  cases : List Case := []
  otherwise : Option (Stmt × Position) := none
  ranged : Bool := false

/-- Reads what a case does, and tells whether it ends itself. -/
def caseAction (parts : Parts) (context : Context) : Read (Stmt × Bool) := do
  if context.singleBlocks then
    return (.expression (← parts.expression context), false)
  else
    match ← parts.statement { context with global := false } with
    | some statement => return (statement, statement.endsItself)
    | none => return (.expression (.literal .unit .start), false)

/-- Reads what separates a case from the next one. -/
def caseSeparator (endsItself : Bool) : Read Unit := do
  if !(← accept ",") then
    let found ← peek
    match found.token with
    | .symbol "\x7d" => return ()
    | .done => fail (.missing ")" "to end this switch block") found.position
    | .fault fault => throw fault
    | _ =>
      if !endsItself then
        fail (.missing "," "to separate the items in this switch block") found.position

/-- The patterns of the alternatives of a case, and whether a range has come by then.  An empty
range is no pattern, and no number may follow any other. -/
def casePatterns (ranged : Bool) : List Expr → Read (List Pattern × Bool)
  | [] => return ([], ranged)
  | e :: rest => do
    match pattern? e with
    | none => fail (.expressionExpected "a literal") e.startPosition
    | some (.range low high closed) =>
      if isEmptyRange low high closed then casePatterns ranged rest
      else
        let (others, ranged) ← casePatterns true rest
        return (.range low high closed :: others, ranged)
    | some (.value value) =>
      match value with
      | .int _ | .float _ => if ranged then fail .numberAfterRange e.startPosition
      | _ => pure ()
      let (others, ranged) ← casePatterns ranged rest
      return (.value value :: others, ranged)

/-- Reads one case. -/
def switchCase (parts : Parts) (context : Context) (so : Switching) : Read Switching := do
  let found ← peek
  match isSymbol "_" found, so.otherwise with
  | true, none =>
    let _ ← next
    let guard ← peek
    if isSymbol "if" guard then fail .conditionOnDefault guard.position
    let _ ← expect "=>" "in this switch case"
    let (action, endsItself) ← caseAction parts context
    caseSeparator endsItself
    return { so with otherwise := some (action, found.position) }
  | _, some (_, position) => fail .defaultCaseNotLast position
  | _, none =>
    let choices ← alternatives parts context
    let guard ← if ← accept "if" then some <$> condition parts context else pure none
    let _ ← expect "=>" "in this switch case"
    let (action, endsItself) ← caseAction parts context
    let (patterns, ranged) ← casePatterns so.ranged choices
    caseSeparator endsItself
    return { so with cases := .mk patterns guard action :: so.cases, ranged := ranged }

/-- Reads a switch after its keyword. -/
def switch (parts : Parts) (context : Context) (position : Position) : Read Stmt := do
  let subject ← parts.expression context
  let _ ← expect "\x7b" "to start a switch block"
  let so ← iterate (fun (so : Switching) => do
    if ← accept "\x7d" then return .inr so
    refuseEnd "\x7d" "to end this switch block" (← peek)
    return .inl (← switchCase parts context so)) {}
  return .switch subject so.cases.reverse (so.otherwise.map Prod.fst) position

/-- Reads a loop with its condition in front, after the keyword. -/
def whileLoop (parts : Parts) (context : Context) (position : Position) : Read Stmt := do
  let guard ← condition parts context
  let (body, bodyPosition) ← parts.block { context with breakable := true }
  return .whileLoop (some guard) body bodyPosition position

/-- Reads a loop without a condition, after the keyword. -/
def endlessLoop (parts : Parts) (context : Context) (position : Position) : Read Stmt := do
  let (body, bodyPosition) ← parts.block { context with breakable := true }
  return .whileLoop none body bodyPosition position

/-- Reads a loop with its condition behind, after the keyword. -/
def doLoop (parts : Parts) (context : Context) (position : Position) : Read Stmt := do
  let (body, bodyPosition) ← parts.block { context with breakable := true }
  let found ← peek
  let wanted ←
    if ← accept "while" then pure true
    else
      if ← accept "until" then pure false
      else failMissing "while" "for the do statement" found
  return .doLoop body (← condition parts context) wanted bodyPosition position

/-- Reads the variables of a loop over a collection. -/
def loopVariables : Read (String × Option String) := do
  if ← accept "(" then
    let (name, _) ← variableName
    let _ ← expect "," "after the iteration variable name"
    let (counter, position) ← variableName
    if counter == name then fail (.duplicatedVariable counter) position
    let _ ← expect ")" "to close the iteration variable"
    return (name, some counter)
  else
    let (name, _) ← variableName
    return (name, none)

/-- Reads a loop over a collection, after the keyword. -/
def forLoop (parts : Parts) (context : Context) (position : Position) : Read Stmt := do
  let (name, counter) ← loopVariables
  let _ ← expect "in" "after the iteration variable"
  refuseBlock
  let items ← asIterable (← parts.expression context)
  let (body, bodyPosition) ← enclosed do
    counter.forM fun counter => declareLocal counter false
    declareLocal name false
    parts.block { context with breakable := true }
  return .forLoop name counter items body bodyPosition position

/-- Reads a binding after its keyword. -/
def declaration (parts : Parts) (context : Context) (constant : Bool) : Read Stmt := do
  let (name, position) ← variableName
  let value ← if ← accept "=" then some <$> parts.expression context else pure none
  let state ← get
  let inner := state.locals.length - state.outer
  let replaces := (state.locals.take inner).any (·.name == name)
  if replaces then
    let mark (known : Local) : Local :=
      if known.name == name then { known with constant := constant } else known
    modify fun s =>
      { s with locals := (s.locals.take inner).map mark ++ s.locals.drop inner }
  else declareLocal name constant
  return .declare name constant replaces value position

/-- Reads an attempt after its keyword. -/
def attempt (parts : Parts) (context : Context) (position : Position) : Read Stmt := do
  let (body, _) ← parts.block context
  let _ ← expect "catch" "for the 'try' statement"
  if ← accept "(" then
    let (name, _) ← variableName
    let _ ← expect ")" "to enclose the catch variable"
    let (handler, _) ← enclosed do
      declareLocal name false
      parts.block context
    return .attempt body (some name) handler position
  else
    let (handler, _) ← parts.block context
    return .attempt body none handler position

/-- Reads the parameters of a function after the opening parenthesis. -/
def functionParameters (function : String) : Read (List String) :=
  iterate (fun (names : List String) => do
    if ← accept ")" then return .inr names.reverse
    let found ← next
    match found.token with
    | .name name =>
      if names.contains name then fail (.duplicatedParameter function name) found.position
      let names := name :: names
      if ← accept ")" then return .inr names.reverse
      let _ ← expect "," ("to separate the parameters of function '" ++ function ++ "'")
      return .inl names
    | _ =>
      failMissing ")" ("to close the parameters list of function '" ++ function ++ "'") found) []

/-- The name of the function being defined. -/
def functionName : Read String := do
  let found ← next
  match found.token with
  | .name name => return name
  | .reserved word => fail (.reserved word) found.position
  | _ => fail .functionName found.position

/-- How many levels of nesting a function may have. -/
def functionLevels : Nat := 32

/-- Reads a function after its keyword, which stands at a place. -/
def function (parts : Parts) (context : Context) (position : Position) : Read Unit := do
  let name ← functionName
  let parameters ←
    if ← accept "()" then pure []
    else
      if ← accept "(" then functionParameters name
      else fail (.functionParameters name) (← peek).position
  if !(← sees "\x7b") then fail (.functionBody name) (← peek).position
  let inner : Context :=
    { context with
      breakable := false, inFunction := true, global := false, level := 1,
      maxLevel := functionLevels }
  let ((body, _), _) ← framed parameters (parts.block inner)
  let known := (← get).functions
  if known.any fun f => f.name == name && f.parameters.length == parameters.length then
    fail (.functionExists name parameters.length) position
  modify fun s => { s with functions := ⟨name, parameters, body⟩ :: s.functions }

/-- The keywords that can only begin a statement. -/
def statementKeywords : List String :=
  ["let", "const", "fn", "private", "return", "throw", "break", "continue", "try", "import",
    "export"]

/-- Reads the value of a statement at a place that may go without one. -/
def optionalValue (parts : Parts) (context : Context) (position : Position) :
    Read (Option Expr) := do
  let value : Read (Option Expr) := do
    some <$> parts.expression (← { context with global := false }.deeper position)
  match (← peek).token with
  | .done => return none
  | .symbol spelling =>
    if statementKeywords.contains spelling || [";", ")", "]", ","].contains spelling ||
        (spelling == "\x7d" && !context.global) then return none
    else value
  | _ => value

/-- The words that begin a block, branch, switch or loop. -/
def compoundKeywords : List String := ["\x7b", "if", "switch", "while", "loop", "do", "for"]

/-- Reads a block, branch, switch or loop. -/
def compound (parts : Parts) (context : Context) : Read Stmt := do
  let found ← peek
  let position := found.position
  let inside (read : Parts → Context → Position → Read Stmt) : Read Stmt := do
    let _ ← next
    read parts (← context.deeper position) position
  match found.token with
  | .symbol "if" => inside branch
  | .symbol "switch" => inside switch
  | .symbol "while" => inside whileLoop
  | .symbol "loop" => inside endlessLoop
  | .symbol "do" => inside doLoop
  | .symbol "for" => inside forLoop
  | _ =>
    let (body, position) ← parts.block context
    return .block body position

/-- Reads a statement; an empty one, the end of the text and the definition of a function leave
nothing behind. -/
def statement (parts : Parts) (context : Context) : Read (Option Stmt) := do
  let found ← peek
  let position := found.position
  let inner := { context with global := false }
  let keyword :=
    match found.token with
    | .symbol spelling => spelling
    | _ => ""
  let skip : Read Unit := do let _ ← next
  if compoundKeywords.contains keyword then
    return some (← compound parts (← inner.deeper position))
  if found.token matches .done then return none
  match keyword with
  | ";" => skip; return none
  | "continue" =>
    if context.breakable then skip; return some (.continueLoop position)
    else fail .loopBreak position
  | "break" =>
    if context.breakable then
      skip
      return some (.breakLoop (← optionalValue parts inner position) position)
    else fail .loopBreak position
  | "return" => skip; return some (.returnValue (← optionalValue parts context position) position)
  | "throw" => skip; return some (.throwValue (← optionalValue parts context position) position)
  | "try" =>
    skip
    return some (← attempt parts (← (← inner.deeper position).deeper position) position)
  | "let" | "const" =>
    skip
    let inner ← (← inner.deeper position).deeper position
    return some (← declaration parts inner (keyword == "const"))
  | "fn" | "private" =>
    if !context.global then fail .nestedFunction position
    skip
    let position ←
      if keyword == "private" then expect "fn" "following 'private'" else pure position
    function parts inner position
    return none
  | _ => return some (← expressionStatement parts (← inner.deeper position))

/-- Reads the statements of a program up to the end of the text. -/
def statements (parts : Parts) (context : Context) : Read (List Stmt) :=
  iterate (fun (body : List Stmt) => do
    match (← peek).token with
    | .done => return .inr body.reverse
    | _ =>
      match ← parts.statement { context with global := true } with
      | none => return .inl body
      | some statement =>
        let body := statement :: body
        match (← peek).token with
        | .done => return .inr body.reverse
        | _ =>
          terminate statement
          return .inl body) []

/-- The program that a reader leaves. -/
def State.program (state : State) (body : List Stmt) : Program :=
  ⟨state.functions.reverse, state.lambdas.reverse, body⟩

/-- The grammar, `depth` layers of nesting deep. -/
def layers : Nat → Parts
  | 0 =>
    { expression := fun _ => do fail .incomplete (← peek).position
      statement := fun _ => do fail .incomplete (← peek).position
      compound := fun _ => do fail .incomplete (← peek).position
      block := fun _ => do fail .incomplete (← peek).position }
  | depth + 1 =>
    let parts := layers depth
    { expression := expression parts, statement := statement parts, compound := compound parts
      block := block parts }

end Cellbook.Script.Grammar
