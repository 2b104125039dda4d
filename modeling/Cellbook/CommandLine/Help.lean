import Cellbook.CommandLine.Argument
import Cellbook.Version

/-!
# Help

The usage lines of the levels, and the texts that describe them.
-/

namespace Cellbook.CommandLine

/-- Texts as lines. -/
def lines (texts : List String) : String := String.join (texts.map (· ++ "\n"))

namespace Level

/-- What stands in a usage line where nothing is known yet of what was given. -/
def usageParts : Level → List String
  | .program => ["[OPTIONS]", "<COMMAND>"]
  | .serve => ["[OPTIONS]"]
  | .run => ["[OPTIONS]", Argument.notebook.written]
  | .help => ["[COMMAND]..."]

/-- What stands at the end of every usage line. -/
def requiredParts : Level → List String
  | .program => ["<COMMAND>"]
  | .run => [Argument.notebook.written]
  | .serve | .help => []

/-- A usage line from its parts. -/
def usageLine (level : Level) (parts : List String) : String :=
  "Usage: " ++ " ".intercalate (level.path :: parts)

/-- The usage line of a level. -/
def usage (level : Level) : String := level.usageLine level.usageParts

/-- The usage line for certain arguments, each of which is shown once. -/
def usageWith (level : Level) (arguments : List Argument) : String :=
  level.usageLine (arguments.eraseDups.map Argument.written ++ level.requiredParts)

/-- What a level is for. -/
def about : Level → String
  | .program => "Tiny notebook server for small devices"
  | .serve => "Start the notebook server"
  | .run => "Run every code cell of a notebook headlessly"
  | .help => "Print this message or the help of the given subcommand(s)"

/-- What describes the arguments of a level. -/
def details : Level → List String
  | .program =>
    ["Commands:",
      "  serve  " ++ about .serve,
      "  run    " ++ about .run,
      "  help   " ++ about .help,
      "",
      "Options:",
      "  -v, --verbose  Enable verbose logging",
      "  -h, --help     Print help",
      "  -V, --version  Print version"]
  | .serve =>
    ["Options:",
      "      --host <HOST>",
      "          Address to bind to [default: 0.0.0.0]",
      "  -p, --port <PORT>",
      "          Port to listen on [default: 12345]",
      "  -d, --dir <DIR>",
      "          Directory holding .unb notebooks [default: .]",
      "  -v, --verbose",
      "          Enable verbose logging",
      "      --assets <ASSETS>",
      "          Directory holding unotebook.js (defaults to --dir)",
      "      --max-operations <MAX_OPERATIONS>",
      "          Abort scripts after this many operations (0 = unlimited) [default: 0]",
      "  -h, --help",
      "          Print help"]
  | .run =>
    ["Arguments:",
      "  <NOTEBOOK>  Path to the notebook (.unb file)",
      "",
      "Options:",
      "  -v, --verbose  Enable verbose logging",
      "  -h, --help     Print help"]
  | .help =>
    ["Arguments:",
      "  [COMMAND]...  Print help for the subcommand(s)"]

/-- The help text of a level. -/
def helpText (level : Level) : String :=
  lines ([level.about, "", level.usage, ""] ++ level.details)

/-- Whether the arguments of a level include one that asks for help. -/
def offersHelp (level : Level) : Bool := level.options.contains .help

end Level

/-- The text that tells the version. -/
def versionText : String := lines [Level.program.word ++ " " ++ version]

end Cellbook.CommandLine
