import Cellbook.Json.Quoted
import Cellbook.Text.Property

/-!
# Names of notebooks

A notebook is named by a text with a reserved ending; the name stands for the stored document and,
while the notebook runs, for its environment.  `sanitize` makes a name from outside fit for a flat
directory.
-/

namespace Cellbook

/-- The ending of every notebook's name. -/
def notebookSuffix : String := ".unb"

/-- The name that stands for a blank notebook. -/
def newNotebookName : String := "__new__.unb"

/-- Whether a name ends as a notebook's does. -/
def hasNotebookSuffix (name : String) : Bool := notebookSuffix.toList.isSuffixOf name.toList

/-- The name of a notebook. -/
structure NotebookId where
  name : String
  hasSuffix : hasNotebookSuffix name = true
  deriving DecidableEq

namespace NotebookId

/-- Takes a name for a notebook's, if it ends as one. -/
def ofName? (name : String) : Option NotebookId :=
  if h : hasNotebookSuffix name = true then some ⟨name, h⟩ else none

/-- Whether the name stands for a blank notebook. -/
def isNew (id : NotebookId) : Bool := id.name == newNotebookName

/-- The written form of a name. -/
def toJson (id : NotebookId) : String := Json.quote id.name

end NotebookId

/-- Reads the three characters `%20` as a space. -/
def decodeSpaces : List Char → List Char
  | [] => []
  | '%' :: '2' :: '0' :: rest => ' ' :: decodeSpaces rest
  | c :: rest => c :: decodeSpaces rest

/-- Whether a character may stand in the name of a stored file. -/
def isFileNameChar (c : Char) : Bool :=
  Text.isAlphanumeric c || c == '_' || c == '.' || c == '-' || c == ' '

/-- What stands for a character in the name of a stored file: a plus is a space, and a character
that may not stand there an underscore. -/
def fileNameChar (c : Char) : Char :=
  if c == '+' then ' ' else if isFileNameChar c then c else '_'

/-- Makes a name fit for a flat directory. -/
def sanitize (name : String) : String :=
  String.ofList ((decodeSpaces name.toList).map fileNameChar)

end Cellbook
