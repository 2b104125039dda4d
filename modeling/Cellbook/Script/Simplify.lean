import Cellbook.Script.Operator
import Cellbook.Script.Syntax

/-!
# Simplifying scripts

What a program leaves out before it runs, and what it settles ahead.  The value of a constant stands
in for its name wherever no `let` or `const` takes the name anew; parameters and the variables of
loops and handlers do not.  Operators on literals are carried out, and `x = x + e` combines in
place.

An expression is pure where evaluating it can only answer a value.  A pure statement whose value
nobody sees is left out, and so is one that is a lone variable, bound or not.

All functions look at most `depth` constructs deep and leave alone what lies deeper.
-/

namespace Cellbook.Script.Simplify

/-- The names that bindings have taken, newest first, with the values of the constants. -/
abbrev Known := List (String × Option Value)

/-- The value that a name stands for ahead. -/
def Known.value? (known : Known) (name : String) : Option Value := (known.lookup name).join

mutual

/-- Whether an expression can only answer a value. -/
def isPure : Nat → Expr → Bool
  | 0, _ => false
  | depth + 1, e =>
    match e with
    | .literal _ _ => true
    | .closure _ captures _ => captures.all fun capture => capture.value?.isSome
    | .embedded items _ | .array items _ => items.all (isPure depth)
    | .map entries _ => entries.all fun entry => isPure depth entry.2
    | .shortcut _ left right _ => isPure depth left && isPure depth right
    | .statement body _ => isPureStmt depth body
    | _ => false

/-- Whether a statement can only answer a value, or is a lone variable. -/
def isPureStmt : Nat → Stmt → Bool
  | 0, _ => false
  | depth + 1, s =>
    match s with
    | .expression (.name _ _ _) => true
    | .expression e => isPure depth e
    | .branch guard yes no _ =>
      isPure depth guard && yes.all (isPureStmt depth) && no.all (isPureStmt depth)
    | .switch subject cases (some otherwise) _ =>
      isPure depth subject && isPureStmt depth otherwise && cases.all fun
        | .mk _ guard action => guard.all (isPure depth) && isPureStmt depth action
    | .whileLoop (some (.literal (.bool false) _)) _ _ _ => true
    | .doLoop body (.literal (.bool value) _) wanted _ _ =>
      value != wanted && body.all (isPureStmt depth)
    | .forLoop _ _ items body _ _ => isPure depth items && body.all (isPureStmt depth)
    | .block body _ => body.all (isPureStmt depth)
    | .attempt body _ handler _ => body.all (isPureStmt depth) && handler.all (isPureStmt depth)
    | _ => false

end

/-- Whether a statement of a block can only answer a value or bind a name that the block forgets. -/
def isPureInside (depth : Nat) : Stmt → Bool
  | .declare _ _ _ value _ => value.all (isPure depth)
  | s => isPureStmt depth s

/-- Whether a statement may have a value of its own. -/
def hasValue : Stmt → Bool
  | .expression _ | .block _ _ | .branch _ _ _ _ | .switch _ _ _ _ => true
  | _ => false

/-- The statement that only answers `()`. -/
def nothing : Stmt := .expression (.literal .unit .start)

/-- Leaves out the pure statements at the end of a block, the latest first; where the value of the
block is `kept`, only those without a value. -/
def dropEnd (depth : Nat) (kept : Bool) : List Stmt → List Stmt
  | [] => []
  | last :: before =>
    if !isPureInside depth last || (kept && hasValue last) then last :: before
    else
      match kept, dropEnd depth kept before with
      | true, [] => []
      | true, before => if hasValue (before.headD nothing) then nothing :: before else before
      | false, before => before

/-- Leaves out the pure statements that another one follows. -/
def dropUnseen (depth : Nat) : List Stmt → List Stmt
  | [] => []
  | [last] => [last]
  | s :: rest => if isPureStmt depth s then dropUnseen depth rest else s :: dropUnseen depth rest

/-- Leaves out what nobody sees of the statements of a block. -/
def tidy (depth : Nat) (kept inner : Bool) (body : List Stmt) : List Stmt :=
  let seen := dropUnseen depth body
  if inner then (dropEnd depth kept seen.reverse).reverse else seen

/-- Whether an operator on values of these types is carried out ahead. -/
def isFoldable : Value → Value → Bool
  | .int _, .int _ | .int _, .float _ | .float _, .int _ | .float _, .float _ => true
  | .bool _, .bool _ | .char _, .char _ | .char _, .text _ | .text _, .char _
  | .text _, .text _ => true
  | _, _ => false

/-- An operator on its operands, carried out where both are literals. -/
def fold (operator : String) (left right : Expr) (position : Position) : Expr :=
  match left, right with
  | .literal a _, .literal b _ =>
    if isFoldable a b && operator != ".." && operator != "..=" then
      match binaryOperate operator a b with
      | .ok value => .literal value position
      | .error _ => .binary operator left right position
    else .binary operator left right position
  | _, _ => .binary operator left right position

/-- A shortcut whose outcome a literal operand settles. -/
def cut (kind : Shortcut) (left right : Expr) (position : Position) : Expr :=
  match kind, left, right with
  | .both, .literal (.bool true) _, e | .either, .literal (.bool false) _, e => e
  | .both, .literal (.bool false) p, _ => .literal (.bool false) p
  | .either, .literal (.bool true) p, _ => .literal (.bool true) p
  | .both, e, .literal (.bool true) _ | .either, e, .literal (.bool false) _ => e
  | kind, left, right => .shortcut kind left right position

/-- The names known after a statement. -/
def Known.after (known : Known) : Stmt → Known
  | .declare name constant _ value _ =>
    let settled := value.elim (some .unit) (Expr.literalValue? 64)
    (name, if constant then settled else none) :: known
  | _ => known

/-- A capture; that of a constant is settled. -/
def settle (known : Known) : Capture → Capture
  | .shared name p => (known.value? name).elim (.shared name p) Capture.settled
  | capture => capture

/-- The operators that an assignment to their first operand combines with it. -/
def isCombining (operator : String) : Bool :=
  ["+", "-", "*", "/", "%", "**", "<<", ">>", "&", "|", "^"].contains operator

mutual

/-- Simplifies an expression. -/
def simplify : Nat → Known → Expr → Expr
  | 0, _, e => e
  | depth + 1, known, e =>
    match e with
    | .name name _ p => (known.value? name).elim e (.literal · p)
    | .embedded items p => .embedded (items.map (simplify depth known)) p
    | .array items p => .array (items.map (simplify depth known)) p
    | .map entries p => .map (entries.map fun entry => (entry.1, simplify depth known entry.2)) p
    | .call function arguments p => .call function (arguments.map (simplify depth known)) p
    | .unary operator operand p => .unary operator (simplify depth known operand) p
    | .binary operator left right p =>
      fold operator (simplify depth known left) (simplify depth known right) p
    | .shortcut kind left right p =>
      cut kind (simplify depth known left) (simplify depth known right) p
    | .chain (.name name bound p) steps =>
      match known.value? name, steps with
      | some (.map entries), [.property key _ _] => .literal ((entries.lookup key).getD .unit) p
      | _, steps => .chain (.name name bound p) (steps.map (simplifyStep depth known))
    | .chain base steps =>
      .chain (simplify depth known base) (steps.map (simplifyStep depth known))
    | .closure number captures p => .closure number (captures.map (settle known)) p
    | .statement body p =>
      match simplifyStmt depth known true body with
      | .block [.expression e] _ => e
      | body => .statement body p
    | e => e

/-- Simplifies a step of a chain. -/
def simplifyStep : Nat → Known → Step → Step
  | 0, _, s => s
  | depth + 1, known, s =>
    match s with
    | .property name optional p => .property name optional p
    | .method name arguments optional p =>
      .method name (arguments.map (simplify depth known)) optional p
    | .index index optional _ bracket =>
      let index := simplify depth known index
      .index index optional index.startPosition bracket

/-- Simplifies the target of an assignment, whose variable keeps its name. -/
def simplifyTarget : Nat → Known → Expr → Expr
  | 0, _, e => e
  | depth + 1, known, e =>
    match e with
    | .chain (.name name bound p) steps =>
      .chain (.name name bound p) (steps.map (simplifyStep depth known))
    | .name name bound p => .name name bound p
    | e => simplify depth known e

/-- Simplifies a statement; `kept` tells whether its value may be seen. -/
def simplifyStmt : Nat → Known → Bool → Stmt → Stmt
  | 0, _, _, s => s
  | depth + 1, known, kept, s =>
    let simple (e : Expr) : Expr := simplify depth known e
    let block (kept : Bool) (body : List Stmt) : List Stmt :=
      let (_, reversed) := body.foldl (fun (known, reversed) s =>
        let s := simplifyStmt depth known kept s
        (Known.after known s, s :: reversed)) (known, [])
      tidy depth kept true reversed.reverse
    match s with
    | .expression e => .expression (simple e)
    | .declare name constant replaces value p =>
      .declare name constant replaces (value.map simple) p
    | .assign target operator value p =>
      let unchanged := .assign (simplifyTarget depth known target) operator (simple value) p
      match target, operator, value with
      | .name name _ _, none, .binary combined (.name first _ _) rest _ =>
        if name == first && isCombining combined then
          .assign target (some combined) (simple rest) value.position
        else unchanged
      | _, _, _ => unchanged
    | .block body p => .block (block kept body) p
    | .branch guard yes no p =>
      let guard := simple guard
      match block kept yes, block kept no with
      | [], [] =>
        if kept then .block [.expression guard, nothing] p else .expression guard
      | yes, no => .branch guard yes no p
    | .switch subject cases otherwise p =>
      .switch (simple subject)
        (cases.map fun
          | .mk patterns guard action =>
            .mk patterns (guard.map simple) (simplifyStmt depth known true action))
        (otherwise.map (simplifyStmt depth known true)) p
    | .whileLoop guard body bodyPosition p =>
      .whileLoop (guard.map simple) (block false body) bodyPosition p
    | .doLoop body guard wanted bodyPosition p =>
      .doLoop (block false body) (simple guard) wanted bodyPosition p
    | .forLoop name counter items body bodyPosition p =>
      .forLoop name counter (simple items) (block false body) bodyPosition p
    | .breakLoop value p => .breakLoop (value.map simple) p
    | .continueLoop p => .continueLoop p
    | .returnValue value p => .returnValue (value.map simple) p
    | .throwValue value p => .throwValue (value.map simple) p
    | .attempt body name handler p =>
      if body.all (isPureStmt depth) then .block [nothing] p
      else .attempt (block false body) name (block false handler) p

end

/-- Simplifies the statements of a program or a function. -/
def simplifyBody (depth : Nat) (known : Known) (body : List Stmt) : List Stmt :=
  let (_, reversed) := body.foldl (fun (known, reversed) s =>
    let s := simplifyStmt depth known true s
    (Known.after known s, s :: reversed)) (known, [])
  tidy depth true false reversed.reverse

/-- Simplifies a program that runs where names are known.  The code of a closure stays as it is: it
is part of a value. -/
def simplifyProgram (depth : Nat) (known : Known) (program : Program) : Program :=
  { program with
    functions := program.functions.map fun f => { f with body := simplifyBody depth known f.body }
    body := simplifyBody depth known program.body }

end Cellbook.Script.Simplify
