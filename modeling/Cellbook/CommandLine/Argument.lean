/-!
# Arguments

The commands, and the arguments that each of them takes.
-/

namespace Cellbook.CommandLine

/-- What is being asked for: the program itself or one of its commands. -/
inductive Level where
  | program
  | serve
  | run
  | help
  deriving Repr, DecidableEq

/-- What a command line can set. -/
inductive Argument where
  | host
  | port
  | dir
  | assets
  | maxOperations
  | verbose
  | help
  | version
  /-- The notebook to run, given by its place alone. -/
  | notebook
  deriving Repr, DecidableEq

namespace Argument

/-- The name after two dashes. -/
def long? : Argument → Option String
  | .host => some "host"
  | .port => some "port"
  | .dir => some "dir"
  | .assets => some "assets"
  | .maxOperations => some "max-operations"
  | .verbose => some "verbose"
  | .help => some "help"
  | .version => some "version"
  | .notebook => none

/-- The letter after one dash. -/
def short? : Argument → Option Char
  | .port => some 'p'
  | .dir => some 'd'
  | .verbose => some 'v'
  | .help => some 'h'
  | .version => some 'V'
  | _ => none

/-- What the value of an argument is called; an argument that takes none has no name for it. -/
def valueName? : Argument → Option String
  | .host => some "HOST"
  | .port => some "PORT"
  | .dir => some "DIR"
  | .assets => some "ASSETS"
  | .maxOperations => some "MAX_OPERATIONS"
  | .notebook => some "NOTEBOOK"
  | .verbose | .help | .version => none

/-- Whether an argument takes a value. -/
def takesValue (argument : Argument) : Bool := argument.valueName?.isSome

/-- An argument as usage lines and messages show it. -/
def written (argument : Argument) : String :=
  match argument.long?, argument.valueName? with
  | some name, some value => "--" ++ name ++ " <" ++ value ++ ">"
  | some name, none => "--" ++ name
  | none, some value => "<" ++ value ++ ">"
  | none, none => ""

end Argument

namespace Level

/-- The commands that may be named at a level. -/
def commands : Level → List Level
  | .program => [.serve, .run, .help]
  | _ => []

/-- The word for a level. -/
def word : Level → String
  | .program => "unotebook"
  | .serve => "serve"
  | .run => "run"
  | .help => "help"

/-- The words that lead to a level. -/
def path : Level → String
  | .program => program.word
  | level => program.word ++ " " ++ level.word

/-- The command that a word names. -/
def command? (level : Level) (word : String) : Option Level :=
  level.commands.find? fun command => command.word == word

/-- The arguments with names that a level takes. -/
def options : Level → List Argument
  | .program => [.verbose, .help, .version]
  | .serve => [.host, .port, .dir, .assets, .maxOperations, .verbose, .help]
  | .run => [.verbose, .help]
  | .help => []

/-- The argument with a name. -/
def long? (level : Level) (name : String) : Option Argument :=
  level.options.find? fun argument => argument.long? == some name

/-- The argument with a letter. -/
def short? (level : Level) (letter : Char) : Option Argument :=
  level.options.find? fun argument => argument.short? == some letter

/-- Whether a notebook is named at a level. -/
def takesNotebook : Level → Bool
  | .run => true
  | _ => false

end Level

end Cellbook.CommandLine
