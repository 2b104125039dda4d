import Cellbook.Http.Uri

/-!
# Requests

A request as the service sees it, built from a method, a target, headers and a body; the first of
these that cannot stand in a request is the fault.
-/

namespace Cellbook.Http

/-- A request. -/
structure Request where
  method : String
  /-- The path of the target, not decoded. -/
  path : Bytes
  /-- Header names in lower case and values, in order. -/
  headers : List (String × Bytes)
  body : Bytes
  deriving Repr, DecidableEq

namespace Request

/-- The octets that may stand in a method and in the name of a header. -/
def isTokenOctet (b : UInt8) : Bool :=
  Uri.isAlphanumeric b || Uri.isOneOf "!#$%&'*+-.^_`|~" b

/-- Whether a text may be a method. -/
def isToken (text : String) : Bool :=
  text != "" && (Text.encode text).all isTokenOctet

/-- The largest number of octets in the name of a header. -/
def maxHeaderName : Nat := 65535

/-- The octets that may stand in the value of a header. -/
def isValueOctet (b : UInt8) : Bool := (0x20 ≤ b && b != 0x7f) || b == 0x09

/-- Checks a header and writes its name in lower case. -/
def checkHeader (header : String × Bytes) : Except RequestFault (String × Bytes) :=
  if !isToken header.1 || maxHeaderName < header.1.utf8ByteSize then .error .invalidHeaderName
  else if !header.2.all isValueOctet then .error .invalidHeaderValue
  else .ok (String.ofList (header.1.toList.map Char.toLower), header.2)

/-- Builds a request. -/
def build (method : String) (target : String) (headers : List (String × Bytes)) (body : Bytes) :
    Except RequestFault Request := do
  if !isToken method then .error .invalidMethod
  let path ← Uri.path (Text.encode target)
  let headers ← headers.mapM checkHeader
  .ok ⟨method, path, headers, body⟩

/-- Whether a request has a header. -/
def hasHeader (request : Request) (name : String) : Bool :=
  request.headers.any fun header => header.1 == name

end Request

end Cellbook.Http
