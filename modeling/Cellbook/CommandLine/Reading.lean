import Cellbook.CommandLine.Fault
import Cellbook.CommandLine.Similarity

/-!
# Reading of command lines

Reads the words of a command line from left to right, first at the level of the program and from the
name of a command on at the level of that command.

* An argument that takes a value is *pending* from its name on.  The next word is its value, unless
  it has dashes in front.  The value is checked only when the next argument is known, or at the end,
  so a word that is no argument is told before a value that is no good.
* After two dashes alone, every word stands for itself.
* Help and the version are answered as soon as they are asked for, with no regard to what follows.
-/

namespace Cellbook.CommandLine

/-- The value that was given to an argument. -/
inductive Setting where
  | present
  | text (value : String)
  | number (value : Nat)
  deriving Repr, DecidableEq

/-- The settings of `serve`. -/
structure ServeSettings where
  host : String
  port : Nat
  dir : String
  assets : String
  maxOperations : Nat
  deriving Repr, DecidableEq

/-- What a command line asks for. -/
inductive Request where
  | help (level : Level)
  | version
  | serve (settings : ServeSettings)
  | run (notebook : String)
  deriving Repr, DecidableEq

/-- A word by its dashes. -/
inductive Word where
  /-- Two dashes alone. -/
  | dashes
  /-- A name after two dashes, with a value if an equals sign follows. -/
  | long (name : String) (value : Option String)
  /-- Letters after one dash. -/
  | letters (first : Char) (rest : List Char)
  | plain
  deriving Repr, DecidableEq

/-- A name, and what follows the first equals sign. -/
def splitValue (text : List Char) : String × Option String :=
  (String.ofList (text.takeWhile (· != '=')),
    match text.dropWhile (· != '=') with
    | [] => none
    | _ :: value => some (String.ofList value))

/-- A word by its dashes. -/
def Word.ofString (word : String) : Word :=
  match word.toList with
  | ['-', '-'] => .dashes
  | '-' :: '-' :: text =>
    let (name, value) := splitValue text
    .long name value
  | '-' :: first :: rest => .letters first rest
  | _ => .plain

/-- The value that a text gives to an argument. -/
def readSetting (argument : Argument) (value : String) : Except Cause Setting :=
  match argument with
  | .port => ((readWithin lastPort value.toList).mapError (.invalidValue argument value)).map .number
  | .maxOperations =>
    ((readNatural lastUnsigned value.toList).mapError (.invalidValue argument value)).map .number
  | .host => .ok (.text value)
  | _ => if value.isEmpty then .error (.missingValue argument) else .ok (.text value)

/-- How far a level has been read. -/
structure Reading where
  level : Level
  /-- The arguments given, in order, but for the pending one. -/
  given : List (Argument × Setting)
  /-- The argument that is pending, with its value once that is read. -/
  pending : Option (Argument × Option String)
  /-- Whether every further word stands for itself. -/
  verbatim : Bool
  deriving Repr

/-- What reading on leads to: more reading, or an answer at once. -/
inductive Step where
  | read (reading : Reading)
  | answer (request : Request)

namespace Reading

/-- A level of which nothing has been read. -/
def start (level : Level) : Reading := ⟨level, [], none, false⟩

/-- A fault at this level. -/
def fault {α : Type} (reading : Reading) (cause : Cause) (usage : UsageNote) :
    Except UsageFault α :=
  .error (.because reading.level cause usage)

/-- Whether an argument has been given. -/
def has (reading : Reading) (argument : Argument) : Bool :=
  reading.given.any fun entry => entry.1 == argument

/-- Notes that an argument was given, which it may be once. -/
def put (reading : Reading) (argument : Argument) (setting : Except Cause Setting) :
    Except UsageFault Reading :=
  if reading.has argument then reading.fault (.repeated argument) .general
  else
    match setting with
    | .error cause => reading.fault cause .none
    | .ok setting => .ok { reading with given := reading.given ++ [(argument, setting)] }

/-- Settles the pending argument. -/
def settle (reading : Reading) : Except UsageFault Reading :=
  let settled := { reading with pending := none }
  match reading.pending with
  | none => .ok settled
  | some (argument, none) => reading.fault (.missingValue argument) .none
  | some (argument, some value) => settled.put argument (readSetting argument value)

/-- The arguments that a usage line shows once a word turns out to be none.  The pending one counts
if it has a value, and a repeated one no longer counts at all. -/
def known (reading : Reading) : List Argument :=
  let given := reading.given.map Prod.fst
  let all :=
    match reading.pending with
    | some (argument, some _) =>
      if reading.has argument then given.filter (· != argument) else given ++ [argument]
    | _ => given
  all.filter (· != .notebook)

/-- Whether the notebook to run has been named. -/
def hasNotebook (reading : Reading) : Bool :=
  reading.has .notebook || reading.pending.any fun entry => entry.1 == .notebook

/-- Whether the next plain word is the value of the pending argument. -/
def awaitsValue (reading : Reading) : Bool :=
  match reading.pending with
  | some (_, none) => true
  | _ => false

/-- Takes an argument that has its value with it. -/
def give (reading : Reading) (argument : Argument) (value : String) :
    Except UsageFault Reading := do
  (← reading.settle).put argument (readSetting argument value)

/-- Takes an argument whose value is to follow. -/
def await (reading : Reading) (argument : Argument) : Except UsageFault Reading := do
  return { ← reading.settle with pending := some (argument, none) }

/-- Takes an argument that takes no value. -/
def raise (reading : Reading) (argument : Argument) : Except UsageFault Step := do
  let settled ← reading.settle
  match argument with
  | .help => return .answer (.help reading.level)
  | .version => return .answer .version
  | _ => return .read (← settled.put argument (.ok .present))

/-- The tip that a word with dashes may be meant as a value. -/
def valueTip? (reading : Reading) (word : String) : Option Tip :=
  if reading.level.takesNotebook then some (.value word) else none

/-- Takes letters after one dash.  A letter whose argument takes a value takes the rest, with or
without an equals sign in between. -/
def letters (reading : Reading) : List Char → Except UsageFault Step
  | [] => .ok (.read reading)
  | c :: rest =>
    match reading.level.short? c with
    | none =>
      let word := String.ofList ['-', c]
      reading.fault (.unknownArgument word (reading.valueTip? word)) .general
    | some argument =>
      if argument.takesValue then
        match rest with
        | [] => (reading.await argument).map .read
        | '=' :: value => (reading.give argument (String.ofList value)).map .read
        | value => (reading.give argument (String.ofList value)).map .read
      else
        match reading.raise argument with
        | .ok (.read reading) => reading.letters rest
        | other => other

/-- The argument of a level that a name may stand for. -/
def similarArgument? (level : Level) (name : String) : Option String :=
  (suggestions name (level.options.filterMap Argument.long?)).getLast?

/-- The command named first in the words that follow, of those with an argument that a name may
stand for. -/
def similarElsewhere? (level : Level) (name : String) : List String → Option Tip
  | [] => none
  | word :: rest =>
    match level.command? word with
    | none => similarElsewhere? level name rest
    | some command =>
      match similarArgument? command name with
      | none => similarElsewhere? level name rest
      | some argument => some (.argumentOf command.word argument)

/-- The fault of a name after two dashes that is no argument of the level. -/
def unknownLong {α : Type} (reading : Reading) (name : String) (following : List String) :
    Except UsageFault α :=
  let word := "--" ++ name
  match similarArgument? reading.level name with
  | some similar =>
    let meant := (reading.level.long? similar).toList
    reading.fault (.unknownArgument word (some (.argument similar)))
      (.ofArguments (reading.known ++ meant))
  | none =>
    let tip := (similarElsewhere? reading.level name following).or (reading.valueTip? word)
    reading.fault (.unknownArgument word tip) (.ofArguments reading.known)

/-- Takes a name after two dashes. -/
def long (reading : Reading) (name : String) (value : Option String) (following : List String) :
    Except UsageFault Step :=
  match reading.level.long? name with
  | none => reading.unknownLong name following
  | some argument =>
    match argument.takesValue, value with
    | true, some value => (reading.give argument value).map .read
    | true, none => (reading.await argument).map .read
    | false, some value =>
      reading.fault (.unexpectedValue argument value)
        (.showing ((reading.given.map Prod.fst).filter (· != .notebook) ++ [argument]))
    | false, none => reading.raise argument

/-- The fault of a word that has no place. -/
def unplaced {α : Type} (reading : Reading) (word : String) : Except UsageFault α :=
  let commands := reading.level.commands
  if reading.verbatim && (reading.level.command? word).isSome then
    reading.fault (.unknownArgument word (some (.command word))) .general
  else if commands.isEmpty then reading.fault (.unknownArgument word none) .general
  else
    reading.fault (.unknownCommand word (suggestions word (commands.map Level.word))) .general

/-- Takes a word that stands for itself: a value that is awaited, or the notebook to run. -/
def plain (reading : Reading) (word : String) : Except UsageFault Reading :=
  match reading.pending, reading.verbatim with
  | some (argument, none), false =>
    .ok { reading with pending := some (argument, some word) }
  | _, _ =>
    if reading.level.takesNotebook && !reading.hasNotebook then do
      return { ← reading.settle with pending := some (.notebook, some word) }
    else reading.unplaced word

/-- Takes a word that names no command. -/
def take (reading : Reading) (word : String) (following : List String) :
    Except UsageFault Step :=
  if reading.verbatim then (reading.plain word).map .read
  else
    match Word.ofString word with
    | .dashes => .ok (.read { reading with verbatim := true })
    | .long name value => reading.long name value following
    | .letters first rest => reading.letters (first :: rest)
    | .plain => (reading.plain word).map .read

/-- The text that an argument was set to. -/
def text? (reading : Reading) (argument : Argument) : Option String :=
  reading.given.findSome? fun entry =>
    match entry with
    | (other, .text value) => if other = argument then some value else none
    | _ => none

/-- The number that an argument was set to. -/
def number? (reading : Reading) (argument : Argument) : Option Nat :=
  reading.given.findSome? fun entry =>
    match entry with
    | (other, .number value) => if other = argument then some value else none
    | _ => none

/-- The settings of `serve`; what was not given has its default. -/
def serveSettings (reading : Reading) : ServeSettings :=
  let dir := (reading.text? .dir).getD "."
  { host := (reading.text? .host).getD "0.0.0.0"
    port := (reading.number? .port).getD 12345
    dir
    assets := (reading.text? .assets).getD dir
    maxOperations := (reading.number? .maxOperations).getD 0 }

/-- What is asked for once all words are read. -/
def finish (reading : Reading) : Except UsageFault Request := do
  let settled ← reading.settle
  match settled.level with
  | .program =>
    if settled.given.isEmpty then .error .nothingGiven
    else settled.fault .missingCommand .general
  | .serve => return .serve settled.serveSettings
  | .run =>
    match settled.text? .notebook with
    | some notebook => return .run notebook
    | none => settled.fault .missingNotebook (.showing (settled.given.map Prod.fst))
  | .help => return .help .program

end Reading

/-- The level that words name, one below the other. -/
def helpLevel : Level → List String → Except UsageFault Level
  | level, [] => .ok level
  | level, word :: rest =>
    match level.command? word with
    | some command => helpLevel command rest
    | none => .error (.because level (.unknownCommand word []) .general)

/-- Reads the words of a command line on. -/
def readFrom : Reading → List String → Except UsageFault Request
  | reading, [] => reading.finish
  | reading, word :: rest =>
    let command :=
      if reading.verbatim || reading.awaitsValue then none else reading.level.command? word
    match command with
    | some .help => (helpLevel reading.level rest).map .help
    | some level => readFrom (.start level) rest
    | none =>
      match reading.take word rest with
      | .error fault => .error fault
      | .ok (.answer request) => .ok request
      | .ok (.read reading) => readFrom reading rest

/-- What a command line asks for. -/
def Request.ofWords (words : List String) : Except UsageFault Request :=
  readFrom (.start .program) words

end Cellbook.CommandLine
