import Cellbook.CommandLine.Help
import Cellbook.CommandLine.Value

/-!
# Faults of command lines

Why a command line asks for nothing that can be done, and how that is told: the cause, what may have
been meant, how the level is used, and where to find more.
-/

namespace Cellbook.CommandLine

/-- What may have been meant by an argument that is not known. -/
inductive Tip where
  /-- A value that begins as an argument does. -/
  | value (word : String)
  /-- An argument of the same level. -/
  | argument (name : String)
  /-- An argument of a command. -/
  | argumentOf (command name : String)
  /-- A command, which two dashes in front keep from being read as one. -/
  | command (word : String)
  deriving Repr, DecidableEq

/-- The words of a tip. -/
def Tip.describe : Tip → String
  | .value word => "to pass '" ++ word ++ "' as a value, use '-- " ++ word ++ "'"
  | .argument name => "a similar argument exists: '--" ++ name ++ "'"
  | .argumentOf owner name => "'" ++ owner ++ " --" ++ name ++ "' exists"
  | .command word =>
    "subcommand '" ++ word ++ "' exists; to use it, remove the '--' before it"

/-- Why a command line asks for nothing that can be done. -/
inductive Cause where
  | unknownArgument (word : String) (tip : Option Tip)
  /-- A word that names no command, and the commands it may stand for. -/
  | unknownCommand (word : String) (similar : List String)
  | missingCommand
  | missingNotebook
  | missingValue (argument : Argument)
  | invalidValue (argument : Argument) (value : String) (fault : NumberFault)
  /-- A value for an argument that takes none. -/
  | unexpectedValue (argument : Argument) (value : String)
  | repeated (argument : Argument)
  deriving Repr, DecidableEq

/-- A text in quotes. -/
def inQuotes (text : String) : String := "'" ++ text ++ "'"

/-- The words for the commands that may have been meant. -/
def describeSimilar : List String → String
  | [name] => "a similar subcommand exists: " ++ inQuotes name
  | names => "some similar subcommands exist: " ++ ", ".intercalate (names.map inQuotes)

/-- A paragraph that tells what may have been meant. -/
def tipParagraph (words : String) : String := "\n\n  tip: " ++ words

/-- The words for a cause. -/
def Cause.describe : Cause → String
  | .unknownArgument word tip =>
    "unexpected argument " ++ inQuotes word ++ " found" ++
      (tip.map fun t => tipParagraph t.describe).getD ""
  | .unknownCommand word similar =>
    "unrecognized subcommand " ++ inQuotes word ++
      (if similar.isEmpty then "" else tipParagraph (describeSimilar similar))
  | .missingCommand =>
    inQuotes Level.program.word ++ " requires a subcommand but one was not provided" ++
      "\n  [subcommands: " ++ ", ".intercalate (Level.program.commands.map Level.word) ++ "]"
  | .missingNotebook =>
    "the following required arguments were not provided:\n  " ++ Argument.notebook.written
  | .missingValue argument =>
    "a value is required for " ++ inQuotes argument.written ++ " but none was supplied"
  | .invalidValue argument value fault =>
    "invalid value " ++ inQuotes value ++ " for " ++ inQuotes argument.written ++ ": " ++
      fault.message
  | .unexpectedValue argument value =>
    "unexpected value " ++ inQuotes value ++ " for " ++ inQuotes argument.written ++
      " found; no more were expected"
  | .repeated argument =>
    "the argument " ++ inQuotes argument.written ++ " cannot be used multiple times"

/-- How a fault tells the use of its level. -/
inductive UsageNote where
  /-- Not at all. -/
  | none
  /-- In general. -/
  | general
  /-- With certain arguments. -/
  | showing (arguments : List Argument)
  deriving Repr, DecidableEq

/-- Tells the use of a level with the arguments known, or in general if there are none. -/
def UsageNote.ofArguments (arguments : List Argument) : UsageNote :=
  if arguments.isEmpty then .general else .showing arguments

/-- The paragraph that tells the use of a level. -/
def UsageNote.paragraph (level : Level) : UsageNote → String
  | .none => ""
  | .general => "\n\n" ++ level.usage
  | .showing arguments => "\n\n" ++ level.usageWith arguments

/-- Why a command line asks for nothing that can be done, and at which level. -/
inductive UsageFault where
  /-- Nothing was given at all. -/
  | nothingGiven
  | because (level : Level) (cause : Cause) (usage : UsageNote)
  deriving Repr, DecidableEq

/-- The message of a fault. -/
def UsageFault.message : UsageFault → String
  | .nothingGiven => Level.program.helpText
  | .because level cause usage =>
    "error: " ++ cause.describe ++ usage.paragraph level ++
      (if level.offersHelp then "\n\nFor more information, try '--help'.\n" else "\n")

end Cellbook.CommandLine
