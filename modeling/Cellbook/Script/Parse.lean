import Cellbook.Script.Grammar.Statement

/-!
# Reading scripts

`parseScript` reads a source text as statements, and `parseExpression` as a single expression.
-/

namespace Cellbook.Script

open Grammar

/-- Starts a reader on a source text, with layers of the grammar enough for any nesting. -/
def startReading {α : Type} (source : String) (read : Parts → Read α) :
    EStateM.Result SyntaxFault State α :=
  let tokens := tokenize source
  let size := tokens.length
  (read (layers (2 * size + 4))).run { tokens := tokens, size := size }

/-- Reads a source text as statements.  `firstLambda` is the number of the first function without a
name. -/
def parseScript (firstLambda : Nat) (source : String) : Except SyntaxFault Program :=
  match startReading source fun parts => statements parts { firstLambda := firstLambda } with
  | .ok body state => .ok (state.program body)
  | .error fault _ => .error fault

/-- Reads a source text as a single expression, which may hold branches and switches but no other
statements. -/
def parseExpression (firstLambda : Nat) (source : String) : Except SyntaxFault Program :=
  let read (parts : Parts) : Read Expr := do
    let e ← parts.expression
      { firstLambda := firstLambda, singleBlocks := true, restricted := true }
    let found ← peek
    match found.token with
    | .done => return e
    | _ => fail (.unexpected "") found.position
  match startReading source read with
  | .ok e state => .ok (state.program [.expression e])
  | .error fault _ => .error fault

end Cellbook.Script
