import Cellbook.Script.Position

/-!
# Syntax faults

Why a source text is not a script.  Each cause carries what its message names; `SyntaxFault` adds
the place.
-/

namespace Cellbook.Script

/-- What is wrong with a source text. -/
inductive SyntaxCause where
  | unexpected (token : String)
  | unterminatedText
  | malformedEscape (text : String)
  | malformedNumber (text : String)
  | malformedChar (text : String)
  | malformedName (text : String)
  | improper (advice : String)
  | incomplete
  | tooDeep
  | reserved (word : String)
  | unknownOperator (spelling : String)
  | missing (token purpose : String)
  | variableExpected
  | propertyExpected
  | expressionExpected (what : String)
  | mismatched (expected actual : String)
  | malformedIndex (advice : String)
  | assignmentToConstant (name : String)
  | assignmentToValue
  | loopBreak
  | nestedFunction
  | functionName
  | functionParameters (name : String)
  | functionBody (name : String)
  | functionExists (name : String) (parameters : Nat)
  | duplicatedParameter (function name : String)
  | duplicatedProperty (name : String)
  | duplicatedVariable (name : String)
  | defaultCaseNotLast
  | conditionOnDefault
  | numberAfterRange
  deriving Repr, DecidableEq

/-- Whether a text is made of letters, digits and underscores, and a letter is the first of them but
for underscores. -/
def isWord (text : String) : Bool :=
  let chars := text.toList
  (chars.dropWhile (· == '_')).head?.any Char.isAlpha &&
    chars.all fun c => c.isAlphanum || c == '_'

/-- How a number of parameters is told. -/
def parameterCount : Nat → String
  | 0 => "no parameters"
  | 1 => "1 parameter"
  | n => toString n ++ " parameters"

/-- The message of a cause. -/
def SyntaxCause.message : SyntaxCause → String
  | unexpected token => "Unexpected '" ++ token ++ "'"
  | unterminatedText => "Open string is not terminated"
  | malformedEscape text => "Invalid escape sequence: '" ++ text ++ "'"
  | malformedNumber text => "Invalid number: '" ++ text ++ "'"
  | malformedChar text => "Invalid character: '" ++ text ++ "'"
  | malformedName text => "Variable name is not proper: '" ++ text ++ "'"
  | improper advice => advice
  | incomplete => "Script is incomplete"
  | tooDeep => "Expression exceeds maximum complexity"
  | reserved word =>
    "'" ++ word ++ "' is a reserved " ++ if isWord word then "keyword" else "symbol"
  | unknownOperator spelling => "Unknown operator: '" ++ spelling ++ "'"
  | missing token purpose => "Expecting '" ++ token ++ "' " ++ purpose
  | variableExpected => "Expecting name of a variable"
  | propertyExpected => "Expecting name of a property"
  | expressionExpected what => "Expecting " ++ what ++ " expression"
  | mismatched expected actual => "Expecting " ++ expected ++ ", not " ++ actual
  | malformedIndex advice => advice
  | assignmentToConstant name =>
    if name.isEmpty then "Cannot assign to a constant value" else "Cannot assign to constant " ++ name
  | assignmentToValue => "Expression cannot be assigned to"
  | loopBreak => "Break statement should only be used inside a loop"
  | nestedFunction =>
    "Function definitions must be at global level and cannot be inside a block or another function"
  | functionName => "Expecting function name in function declaration"
  | functionParameters name => "Expecting parameters for function " ++ name
  | functionBody name => "Expecting body statement block for function " ++ name
  | functionExists name parameters =>
    "Function " ++ name ++ " with " ++ parameterCount parameters ++ " already exists"
  | duplicatedParameter function name =>
    "Duplicated parameter " ++ name ++ " for function " ++ function
  | duplicatedProperty name => "Duplicated property for object map literal: " ++ name
  | duplicatedVariable name => "Duplicated variable name: " ++ name
  | defaultCaseNotLast => "Default switch case must be the last"
  | conditionOnDefault => "This switch case cannot have a condition"
  | numberAfterRange => "Numeric switch case cannot follow a range case"

/-- A cause and its place, if it has one. -/
structure SyntaxFault where
  cause : SyntaxCause
  position : Option Position
  deriving Repr, DecidableEq

/-- The message of a fault, place included. -/
def SyntaxFault.message (fault : SyntaxFault) : String :=
  fault.cause.message ++ Position.suffix fault.position

end Cellbook.Script
