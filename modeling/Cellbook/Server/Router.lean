import Cellbook.Server.Handler
import Cellbook.Server.Route

/-!
# Router

Answers requests.  Every answer says that any origin may read it, and an OPTIONS request is answered
by itself, whatever it names.  A HEAD request is answered as a GET request is, without the body.
-/

namespace Cellbook.Server

variable {ε ν σ τ : Type}

/-- The largest body of a request, in octets. -/
def bodyLimit : Nat := 2097152

/-- The answer to a body that is too large. -/
def bodyTooLarge : Response :=
  .ofText 413 "Failed to buffer the request body: length limit exceeded"

/-- The answer to a name that is no text. -/
def invalidPathName : Response := .ofText 400 "Invalid URL: Invalid UTF-8 in `name`"

/-- Any origin may read an answer. -/
def allowOrigin : List (String × String) := [("access-control-allow-origin", "*")]

/-- What an answer depends on besides its target. -/
def varyHeader : List (String × String) :=
  [("vary", "origin, access-control-request-method, access-control-request-headers")]

/-- The headers of every answer. -/
def sharingHeaders : List (String × String) :=
  allowOrigin ++ [("access-control-expose-headers", "*")] ++ varyHeader

/-- The headers of the answer to an OPTIONS request. -/
def preflightHeaders : List (String × String) :=
  allowOrigin ++
    [("access-control-allow-methods", "*"), ("access-control-allow-headers", "*")] ++ varyHeader

/-- The header that names the methods of a route. -/
def allowHeader (route : Route) : String × String := ("allow", ",".intercalate route.methods)

/-- The answer to what a handler came to. -/
def Handled.response : Handled → Response
  | .ok response => response
  | .error fault => fault.response

/-- The text of a name in a path. -/
def decodeName? (name : Bytes) : Option String := Text.decode? (Http.percentDecode name)

/-- Hands a body to a handler, unless it is too large. -/
def withBody {α : Type} (state : α) (body : Bytes) (handler : Bytes → α × Handled) :
    α × Response :=
  if bodyLimit < body.length then (state, bodyTooLarge)
  else
    let (state, handled) := handler body
    (state, handled.response)

namespace Service

/-- Answers a request whose method the route admits. -/
def handleRoute [Represent ν] [FileStore σ] [FileStore τ] (service : Service ε ν σ τ)
    (request : Http.Request) : Route → Service ε ν σ τ × Response
  | .page => (service, getPage)
  | .script => (service, service.getScript.response)
  | .files => (service, service.listFiles.response)
  | .notebook name =>
    match decodeName? name with
    | none => (service, invalidPathName)
    | some name => (service, (service.loadNotebook name).response)
  | .delete => withBody service request.body service.delete
  | .stop => withBody service request.body service.stop
  | .runCell => withBody service request.body service.runCell
  | .save name =>
    match decodeName? name with
    | none => (service, invalidPathName)
    | some name =>
      withBody service request.body (service.save name (request.hasHeader "content-length"))

/-- Answers a request, without the headers that every answer has. -/
def dispatch [Represent ν] [FileStore σ] [FileStore τ] (service : Service ε ν σ τ)
    (request : Http.Request) : Service ε ν σ τ × Response :=
  match Route.ofPath? request.path with
  | none => (service, (ServerFault.notFound "route").response)
  | some route =>
    if route.methods.contains request.method then service.handleRoute request route
    else (service, (Http.Response.ofStatus 405).withHeaders [allowHeader route])

/-- The answer to an OPTIONS request. -/
def preflight (path : Bytes) : Response :=
  (Http.Response.ofStatus 200).withLength.withHeaders
    (preflightHeaders ++ ((Route.ofPath? path).map allowHeader).toList)

/-- Answers a request. -/
def handle [Represent ν] [FileStore σ] [FileStore τ] (service : Service ε ν σ τ)
    (request : Http.Request) : Service ε ν σ τ × Response :=
  if request.method = "OPTIONS" then (service, preflight request.path)
  else
    let (service, response) := service.dispatch request
    let response := response.withLength.withHeaders sharingHeaders
    (service, if request.method = "HEAD" then response.withoutBody else response)

end Service

end Cellbook.Server
