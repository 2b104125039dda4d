import Cellbook.Engine.Fault
import Cellbook.Http.Response

/-!
# Faults of the server

Why a request is not answered as asked.  A client learns only whether what it named exists.
-/

namespace Cellbook.Server

/-- Why a request is not answered as asked. -/
inductive ServerFault where
  /-- A store failed at a path. -/
  | io (path : String) (message : String)
  | core (fault : CellFault)
  | json (fault : Json.Fault)
  /-- There is no such route or file. -/
  | notFound (what : String)
  /-- A document was sent without its length. -/
  | missingContentLength
  deriving Repr, DecidableEq

namespace ServerFault

/-- The fault of a store at a path; a missing file is told apart. -/
def ofIo (path : String) (fault : IoFault) : ServerFault :=
  if fault.kind = .notFound then .notFound path else .io path fault.message

/-- The message of a fault. -/
def message : ServerFault → String
  | .io path message => "IO error at " ++ path ++ ": " ++ message
  | .core fault => "Core error: " ++ fault.message
  | .json fault => "JSON error: " ++ fault.message
  | .notFound what => "Not found: " ++ what
  | .missingContentLength => "Missing Content-Length header"

/-- The response to a fault. -/
def response : ServerFault → Http.Response ServerFault
  | .notFound _ => .ofStatus 404
  | _ => .ofText 500 "Error"

end ServerFault

/-- A response whose stream a fault may break off. -/
abbrev Response := Http.Response ServerFault

end Cellbook.Server
