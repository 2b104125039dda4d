import Cellbook.Text.Utf8

/-!
# Routes

What the path of a request names.  Routes are told apart on the path as it was sent; a name in it is
one segment, not empty and not yet decoded.
-/

namespace Cellbook.Server

/-- What a path names. -/
inductive Route where
  /-- The page of the user interface. -/
  | page
  /-- The script of the user interface. -/
  | script
  | delete
  | stop
  | runCell
  | save (name : Bytes)
  | files
  | notebook (name : Bytes)
  deriving Repr, DecidableEq

namespace Route

/-- What stands after a beginning of a path. -/
def after? (beginning : String) (path : Bytes) : Option Bytes :=
  let start := Text.encode beginning
  if start.isPrefixOf path then some (path.drop start.length) else none

/-- The name that stands after a beginning of a path, if it is one segment. -/
def nameAfter? (beginning : String) (path : Bytes) : Option Bytes :=
  (after? beginning path).filter fun name => !name.isEmpty && !name.contains '/'.toUInt8

/-- The routes whose paths hold no name. -/
def fixed : List (String × Route) :=
  [("/", .page), ("/unotebook.js", .script), ("/_delete", .delete), ("/_stop", .stop),
    ("/run_cell", .runCell), ("/_files", .files)]

/-- What a path names. -/
def ofPath? (path : Bytes) : Option Route :=
  match fixed.find? fun entry => Text.encode entry.1 == path with
  | some entry => some entry.2
  | none =>
    if (after? "/notebook/" path).any fun rest => !rest.isEmpty then some .page
    else
      match nameAfter? "/_save/" path with
      | some name => some (.save name)
      | none => (nameAfter? "/_notebook/" path).map .notebook

/-- The methods that a route admits. -/
def methods : Route → List String
  | .page | .script | .files | .notebook _ => ["GET", "HEAD"]
  | .delete | .stop | .runCell | .save _ => ["POST"]

end Route

end Cellbook.Server
