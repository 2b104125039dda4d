import Cellbook.Text.Cut

/-!
# Paths

Paths as texts and as the steps they are read as.  A step goes to the root, stays, goes up, or goes
down by a name; a path that ends in a slash also says that what it names is a directory, which is a
last step that stays.
-/

namespace Cellbook.Disk

/-- A step of a path. -/
inductive Step where
  | root
  | current
  | parent
  | down (name : String)
  deriving Repr, DecidableEq

/-- What stands between the slashes of a path. -/
def segments (path : String) : List (List Char) :=
  (Text.cut '/' path.toList).filter fun segment => !segment.isEmpty

/-- The step of a segment that is not empty. -/
def stepOf (segment : List Char) : Step :=
  if segment == ['.'] then .current
  else if segment == ['.', '.'] then .parent
  else .down (String.ofList segment)

/-- The steps of a path. -/
def steps (path : String) : List Step :=
  let text := path.toList
  (if text.head? == some '/' then [.root] else []) ++
    (segments path).map stepOf ++
    (if text.getLast? == some '/' then [.current] else [])

/-- The name that a path ends in.  There is none if the path goes nowhere, or up at its end. -/
def fileName? (path : String) : Option String :=
  match ((segments path).map stepOf).filter (· != .current) |>.getLast? with
  | some (.down name) => some name
  | _ => none

/-- A name taken from a directory on; a name that begins with a slash stands for itself. -/
def join (directory name : String) : String :=
  if name.toList.head? == some '/' then name
  else if directory.isEmpty || directory.toList.getLast? == some '/' then directory ++ name
  else directory ++ "/" ++ name

end Cellbook.Disk
