import Cellbook.Script.Grammar.Basic

/-!
# The grammar of expressions

Operands, steps, prefix operators and binary operators by precedence.  Operands that can never have
the type their place asks for are refused where they stand.
-/

namespace Cellbook.Script.Grammar

/-- What an operand is by its form alone, as messages tell it. -/
def formName? : Expr → Option String
  | .literal .unit _ => some "()"
  | .literal (.bool _) _ => some "a boolean"
  | .literal (.int _) _ => some "a number"
  | .literal (.float _) _ => some "a floating-point number"
  | .literal (.char _) _ => some "a character"
  | .literal (.text _) _ | .embedded _ _ => some "a string"
  | .array _ _ => some "an array"
  | .map _ _ => some "an object map"
  | .shortcut .both _ _ _ | .shortcut .either _ _ _ => some "a boolean"
  | _ => none

/-- Refuses an operand whose form is one of `wrong`. -/
def refuseForms (expected : String) (wrong : List String) (e : Expr) : Read Expr :=
  match formName? e with
  | some form =>
    if wrong.contains form then fail (.mismatched expected form) e.startPosition else return e
  | none => return e

/-- Refuses an operand that is no condition. -/
def asCondition (e : Expr) : Read Expr :=
  refuseForms "a boolean expression"
    ["()", "a number", "a floating-point number", "a character", "a string", "an array",
      "an object map"] e

/-- Refuses an operand that a loop cannot run over. -/
def asIterable (e : Expr) : Read Expr :=
  refuseForms "an iterable value"
    ["()", "a boolean", "a number", "a floating-point number", "a character", "an object map"] e

/-- Refuses an index that its base can never take, where the form of both tells. -/
def checkIndex (base index : Expr) : Read Unit := do
  let refuse (expectation form : String) : Read Unit :=
    fail (.malformedIndex (expectation ++ ", not " ++ form)) index.startPosition
  let form :=
    match formName? index with
    | some "a floating-point number" => some "a float"
    | form => form
  match formName? base, form with
  | some "an object map", some form =>
    if ["a number", "a float", "a character", "()", "a boolean"].contains form then
      refuse "Object map expects string index" form
  | some base, some form =>
    if ["a number", "an array", "a string"].contains base then
      if form == "a string" then
        refuse "Array, string or bit-field expects numeric index" form
      else if ["a float", "a character", "()", "a boolean"].contains form then
        refuse "Array, string or bit-field expects integer index" form
  | _, _ => return ()

/-- How tightly a binary operator binds; nothing for what is no binary operator. -/
def precedence (spelling : String) : Nat :=
  if ["||", "^", "|"].contains spelling then 30
  else if ["&&", "&"].contains spelling then 60
  else if ["==", "!="].contains spelling then 90
  else if ["in", "!in"].contains spelling then 110
  else if ["<", "<=", ">", ">="].contains spelling then 130
  else if spelling == "??" then 135
  else if ["..", "..="].contains spelling then 140
  else if ["+", "-"].contains spelling then 150
  else if ["*", "/", "%"].contains spelling then 180
  else if spelling == "**" then 190
  else if ["<<", ">>"].contains spelling then 210
  else 0

/-- Reads the arguments of a call after the opening parenthesis. -/
def arguments (parts : Parts) (context : Context) (function : String) (opening : Position) :
    Read (List Expr) :=
  let unclosed := "to close the arguments list of this function call '" ++ function ++ "'"
  separated ")"
    (fun items found => if items.isEmpty then refuseEnd ")" unclosed found else return ())
    (fun _ => do parts.expression (← context.deeper opening))
    (fun found =>
      match found.token with
      | .done => failMissing ")" unclosed found
      | _ => failMissing "," ("to separate the arguments to function call '" ++ function ++ "'") found)

/-- Reads the arguments of a call, if one follows. -/
def arguments? (parts : Parts) (context : Context) (function : String) :
    Read (Option (List Expr)) := do
  let opening := (← peek).position
  if ← accept "()" then return some []
  else if ← accept "(" then return some (← arguments parts context function opening)
  else return none

/-- Reads the items of an array after the opening bracket. -/
def arrayItems (parts : Parts) (context : Context) : Read (List Expr) :=
  separated "]" (fun _ => refuseEnd "]" "to end this array literal")
    (fun _ => parts.expression context)
    (fun found =>
      match found.token with
      | .done => failMissing "]" "to end this array literal" found
      | _ => failMissing "," "to separate the items of this array literal" found)

/-- Reads one entry of a map; `items` are the entries before it. -/
def mapEntry (parts : Parts) (context : Context) (items : List (String × Expr)) :
    Read (String × Expr) := do
  let found ← next
  let name ← match found.token with
    | .name name | .text name =>
      if items.any (·.1 == name) then fail (.duplicatedProperty name) found.position
      else pure name
    | .reserved word =>
      if isWord word then fail (.reserved word) found.position
      else fail .propertyExpected found.position
    | .fault fault => throw fault
    | .textBefore _ | .done => fail .propertyExpected found.position
    | _ =>
      if items.isEmpty then failMissing "\x7d" "to end this object map literal" found
      else fail .propertyExpected found.position
  let _ ← expect ":" ("to follow the property '" ++ name ++ "' in this object map literal")
  return (name, ← parts.expression context)

/-- Reads the entries of a map after the opening brace. -/
def mapEntries (parts : Parts) (context : Context) : Read (List (String × Expr)) :=
  separated "\x7d" (fun _ => refuseEnd "\x7d" "to end this object map literal")
    (mapEntry parts context)
    (fun found =>
      match found.token with
      | .name _ => failMissing "," "to separate the items of this object map literal" found
      | _ => failMissing "\x7d" "to end this object map literal" found)

/-- Reads what follows a piece of text before an embedded block, up to the closing quote. -/
def embeddedSegments (parts : Parts) (context : Context) : Read (List Expr) :=
  iterate (fun (segments : List Expr) => do
    let (body, position) ← parts.block context
    let segments := .statement (.block body position) position :: segments
    let found ← next
    match found.token with
    | .text text => return .inr ((.literal (.text text) found.position :: segments).reverse)
    | .textBefore text => return .inl (.literal (.text text) found.position :: segments)
    | .fault fault => throw fault
    | _ => fail .unterminatedText found.position) []

/-- Reads the parameters of a closure after the opening bar. -/
def closureParameters : Read (List String) :=
  iterate (fun (names : List String) => do
    if ← accept "|" then return .inr names.reverse
    let found ← next
    match found.token with
    | .name name =>
      if names.contains name then fail (.duplicatedParameter "" name) found.position
      let names := name :: names
      if ← accept "|" then return .inr names.reverse
      let _ ← expect "," "to separate the parameters of anonymous function"
      return .inl names
    | _ =>
      failMissing "|" "to close the parameters list of anonymous function or closure" found) []

/-- Reads a closure after its opening bar or bars. -/
def closure (parts : Parts) (context : Context) (parameters : List String) (position : Position) :
    Read Expr := do
  let inner : Context :=
    { context with
      breakable := false, inFunction := true, global := false, restricted := false,
      alternatives := false }
  let (body, captures) ← framed parameters (parts.statement inner)
  let lambda : Lambda := ⟨captures.map Prod.fst ++ parameters, body.toList⟩
  let number := context.firstLambda + (← get).lambdas.length
  modify fun s => { s with lambdas := lambda :: s.lambdas }
  captures.forM fun (name, position) => noteUse name position
  return .closure number (captures.map fun (name, position) => .shared name position) position

/-- Whether an assignment follows. -/
def seesAssignment : Read Bool := do
  match (← peek).token with
  | .symbol s => return s == "=" || isCombiningAssignment s
  | _ => return false

/-- Reads on after a name: a call, or the variable. -/
def afterName (parts : Parts) (context : Context) (name : String) (position : Position) :
    Read Expr := do
  if ← accept "!" then
    match ← arguments? parts context name with
    | some arguments => return .call name arguments position
    | none => failMissing "(" "to start arguments list of function call" (← peek)
  else
    match ← arguments? parts context name with
    | some arguments => return .call name arguments position
    | none =>
      noteUse name position
      return .name name (← findLocal? name).isSome position

/-- Reads on after a keyword that is kept out of use. -/
def afterReserved (parts : Parts) (context : Context) (word : String) (position : Position) :
    Read Expr := do
  let called := if callableKeywords.contains word then arguments? parts context word
    else pure none
  match ← called with
  | some arguments => return .call word arguments position
  | none =>
    if word == "this" then
      if context.inFunction then return .this position
      else fail (.improper "'this' can only be used in functions") position
    else fail (.reserved word) position

/-- Reads an operand without its steps. -/
def operand (parts : Parts) (context : Context) : Read Expr := do
  let found ← peek
  let position := found.position
  let take (value : Value) : Read Expr := do
    let _ ← next
    return .literal value position
  match found.token with
  | .done => fail .incomplete position
  | .fault fault => throw fault
  | .int n => take (.int n)
  | .float x => take (.float x)
  | .char c => take (.char c)
  | .text s => take (.text s)
  | .textBefore s =>
    let _ ← next
    let segments ← embeddedSegments parts (← context.deeper position)
    return .embedded (.literal (.text s) position :: segments) position
  | .name name =>
    let _ ← next
    afterName parts context name position
  | .reserved word =>
    let _ ← next
    afterReserved parts context word position
  | .symbol "true" => take (.bool true)
  | .symbol "false" => take (.bool false)
  | .symbol "()" => take .unit
  | .symbol "(" =>
    let _ ← next
    let inner ← parts.expression (← context.deeper position)
    let _ ← expect ")" "for a matching ( in this expression"
    return inner
  | .symbol "[" =>
    let _ ← next
    return .array (← arrayItems parts (← context.deeper position)) position
  | .symbol "#\x7b" =>
    let _ ← next
    return .map (← mapEntries parts (← context.deeper position)) position
  | .symbol "|" =>
    let _ ← next
    let inner ← context.deeper position
    closure parts inner (← closureParameters) position
  | .symbol "||" =>
    let _ ← next
    closure parts (← context.deeper position) [] position
  | .symbol spelling =>
    let always := ["if", "switch"]
    let unlessRestricted := ["\x7b", "while", "loop", "do", "for"]
    if always.contains spelling ||
        (!context.restricted && unlessRestricted.contains spelling) then
      return .statement (← parts.compound { context with global := false }) position
    else fail (.unexpected spelling) position

/-- Reads the step after its point. -/
def memberStep (parts : Parts) (context : Context) (optional : Bool) : Read Step := do
  let found ← next
  let position := found.position
  match found.token with
  | .name name =>
    match ← arguments? parts context name with
    | some arguments => return .method name arguments optional position
    | none => return .property name optional position
  | .reserved word =>
    if methodKeywords.contains word then
      match ← arguments? parts context word with
      | some arguments => return .method word arguments optional position
      | none => fail (.reserved word) position
    else fail (.reserved word) position
  | _ => fail .propertyExpected position

/-- The steps read so far, latest first, and the contexts in which a point and a bracket go on: a
point stays one level further in, a bracket does so up to the next point. -/
structure Steps where
  taken : List Step := []
  point : Context
  bracket : Context

/-- Reads the steps of a chain. -/
def steps (parts : Parts) (context : Context) (base : Expr) : Read (List Step) :=
  iterate (fun (so : Steps) => do
    let found ← peek
    let optional := isSymbol "?." found || isSymbol "?[" found
    if isSymbol "." found || isSymbol "?." found then
      let _ ← next
      let inner ← so.point.deeper found.position
      return .inl ⟨(← memberStep parts inner optional) :: so.taken, inner, inner⟩
    else if isSymbol "[" found || isSymbol "?[" found then
      let _ ← next
      let inner ← so.bracket.deeper found.position
      let index ← parts.expression (← inner.deeper found.position)
      if so.taken.isEmpty then checkIndex base index
      let _ ← expect "]" "for a matching [ in this index expression"
      let step := .index index optional index.startPosition found.position
      return .inl ⟨step :: so.taken, so.point, inner⟩
    else return .inr so.taken.reverse) { point := context, bracket := context }

/-- Reads an operand and its steps. -/
def primary (parts : Parts) (context : Context) : Read Expr := do
  let base ← operand parts context
  match ← steps parts context base with
  | [] => return base
  | taken => return .chain base taken

/-- The negation of an operand; that of a number is a number. -/
def negated (e : Expr) (position : Position) : Expr :=
  match e with
  | .literal (.int n) _ =>
    if n == Int64.minValue then .literal (.float (-n.toFloat)) position
    else .literal (.int (-n)) position
  | .literal (.float x) _ => .literal (.float (-x)) position
  | e => .unary "-" e position

/-- Whether a token is the operator of a range. -/
def isRangeOperator (spelling : String) : Bool := spelling == ".." || spelling == "..="

/-- Reads prefix operators and their operand; `fuel` bounds the number of operators.  A range
without a lower bound begins at the least integer. -/
def prefixed (parts : Parts) : Nat → Context → Read Expr
  | 0, _ => do fail .incomplete (← peek).position
  | fuel + 1, context => do
    let found ← peek
    let position := found.position
    if ← accept "-" then
      return negated (← prefixed parts fuel (← context.deeper position)) position
    else if ← accept "+" then
      match ← prefixed parts fuel (← context.deeper position) with
      | .literal (.int n) p => return .literal (.int n) p
      | .literal (.float x) p => return .literal (.float x) p
      | e => return .unary "+" e position
    else if ← accept "!" then
      return .unary "!" (← prefixed parts fuel (← context.deeper position)) position
    else if isSymbol ".." found || isSymbol "..=" found then
      return .literal (.int Int64.minValue) position
    else primary parts context

/-- The expression of a binary operator and its operands. -/
def combine (operator : String) (left right : Expr) (position : Position) : Read Expr := do
  match operator with
  | "&&" | "||" =>
    let right ← asCondition right
    let left ← asCondition left
    return .shortcut (if operator == "&&" then .both else .either) left right position
  | "??" => return .shortcut .orElse left right position
  | "in" => return .call "contains" [right, left] position
  | "!in" => return .unary "!" (.call "contains" [right, left] position) position
  | _ => return .binary operator left right position

/-- The binary operator that is next, and how tightly it binds. -/
def nextOperator (context : Context) : Read (String × Nat) := do
  let found ← peek
  match found.token with
  | .symbol spelling =>
    if context.alternatives && spelling == "|" then return (spelling, 0)
    else return (spelling, precedence spelling)
  | .reserved word =>
    if isWord word then return ("", 0) else fail (.unknownOperator word) found.position
  | _ => return ("", 0)

/-- Reads the right operand of an operator; a range without an upper bound ends at the greatest
integer. -/
def rightOperand (parts : Parts) (fuel : Nat) (context : Context) (operator : String) :
    Read Expr := do
  let found ← peek
  let ends :=
    match found.token with
    | .symbol spelling => [")", "]", "\x7d", ",", ";", "=>"].contains spelling
    | _ => false
  if isRangeOperator operator && ends then return .literal (.int Int64.maxValue) found.position
  else prefixed parts fuel context

/-- Reads on after a left operand, as long as operators bind tighter than `parent`; `fuel` bounds
the number of operators.  Each goes one level further in, and `place` tells where that is one too
many. -/
def binaryFrom (parts : Parts) : Nat → Context → Position → Nat → Expr → Read Expr
  | 0, _, _, _, _ => do fail .incomplete (← peek).position
  | fuel + 1, context, place, parent, left => do
    let (operator, binding) ← nextOperator context
    let rightBinding := operator == "**"
    if binding < parent || (binding == parent && !rightBinding) then return left
    let position := (← next).position
    let right ← rightOperand parts (fuel + 1) context operator
    let (_, following) ← nextOperator context
    let right ← if binding < following || (binding == following && rightBinding) then
        binaryFrom parts fuel context right.position binding right
      else pure right
    let inner ← context.deeper place
    binaryFrom parts fuel inner position parent (← combine operator left right position)

/-- Reads an expression. -/
def expression (parts : Parts) (context : Context) : Read Expr := do
  let fuel := (← get).size + 1
  let inner ← context.deeper (← peek).position
  let left ← prefixed parts fuel inner
  binaryFrom parts fuel inner left.position 1 left

end Cellbook.Script.Grammar
