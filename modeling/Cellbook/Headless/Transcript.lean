import Cellbook.Headless.Run
import Cellbook.Json.Decode
import Cellbook.Terminal
import Cellbook.Text.Cut

/-!
# Transcripts

What a person sees of a headless run.  A printed text stands as it was printed, and a result as it
was sent, on a line of its own.
-/

namespace Cellbook.Headless

open Terminal (paint rule)

/-- A message of a response as it is shown: the text that it quotes, or else the message itself on a
line of its own. -/
def showMessage (message : String) : String :=
  match Json.decode Json.text (Text.encode message) with
  | .ok text => text
  | .error _ => message ++ "\n"

/-- The messages of a response and what follows the last of them, which is its result. -/
def splitResponse (response : String) : List String × String :=
  let pieces := (Text.cut '\n' response.toList).map String.ofList
  (pieces.dropLast, pieces.getLastD "")

/-- A response as it is shown. -/
def showResponse (response : String) : String :=
  let (messages, result) := splitResponse response
  String.join (messages.map showMessage) ++ (if result.isEmpty then "" else result ++ "\n")

/-- The line over what a cell comes to. -/
def indexLine (index : Nat) : String := paint .dim ("[" ++ toString index ++ "]") ++ "\n"

/-- The words for a cell that failed. -/
def failedWords (index : Nat) : String := "Cell " ++ toString index ++ " failed"

/-- What became of a cell as it is shown. -/
def CellReport.show (report : CellReport) : String :=
  indexLine report.index ++ showResponse (Text.decodeLossy report.response) ++
    (match report.outcome with
      | .ok () => ""
      | .error fault =>
        paint .red (failedWords report.index ++ ":") ++ " " ++ fault.message ++ "\n")

/-- The lines over a run. -/
def header (id : NotebookId) : String :=
  "\n" ++ paint .bold "Running" ++ " " ++ id.name ++ "\n" ++ rule

/-- The lines under a run in which no cell failed. -/
def footer (count : Nat) (seconds : String) : String :=
  rule ++ paint .green "Completed" ++ " " ++ toString count ++ " cells in " ++ seconds ++ "s\n"

end Cellbook.Headless
