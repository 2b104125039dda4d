import Cellbook.Text.Utf8

/-!
# Request targets

Reads the target of a request for its path.  A target is a path, an asterisk, an address with a
scheme, or an authority by itself; what follows a question mark or a number sign is no part of the
path.
-/

namespace Cellbook.Http

/-- Why a request cannot be built. -/
inductive RequestFault where
  | invalidMethod
  | invalidHeaderName
  | invalidHeaderValue
  | emptyTarget
  | targetTooLong
  | invalidTargetOctet
  | invalidTargetForm
  | invalidAuthority
  | schemeTooLong
  deriving Repr, DecidableEq

/-- The message of a fault. -/
def RequestFault.message : RequestFault → String
  | .invalidMethod => "invalid HTTP method"
  | .invalidHeaderName => "invalid HTTP header name"
  | .invalidHeaderValue => "failed to parse header value"
  | .emptyTarget => "empty string"
  | .targetTooLong => "uri too long"
  | .invalidTargetOctet => "invalid uri character"
  | .invalidTargetForm => "invalid format"
  | .invalidAuthority => "invalid authority"
  | .schemeTooLong => "scheme too long"

namespace Uri

/-- Letters and digits. -/
def isAlphanumeric (b : UInt8) : Bool :=
  (0x30 ≤ b && b ≤ 0x39) || (0x41 ≤ b && b ≤ 0x5a) || (0x61 ≤ b && b ≤ 0x7a)

/-- Whether an octet is one of the characters of a text. -/
def isOneOf (characters : String) (b : UInt8) : Bool :=
  characters.toList.any fun c => c.toNat == b.toNat

/-- The octets that may stand in a path, and those past ASCII. -/
def isPathOctet (b : UInt8) : Bool := 0x21 ≤ b && !isOneOf "#<>?`" b

/-- The octets that may stand in a query, and those past ASCII. -/
def isQueryOctet (b : UInt8) : Bool := 0x21 ≤ b && !isOneOf "\"#<>" b

/-- The octets that may stand in an authority. -/
def isAuthorityOctet (b : UInt8) : Bool :=
  isAlphanumeric b || isOneOf "!$&'()*+,-.:;=@[]_~" b

/-- The octets that may stand in a scheme. -/
def isSchemeOctet (b : UInt8) : Bool := isAlphanumeric b || isOneOf "+-.~" b

/-- Whether an octet ends an authority. -/
def endsAuthority (b : UInt8) : Bool := isOneOf "/?#" b

/-- The path of a path with a query, and that all of it may stand there. -/
def pathOf (target : Bytes) : Except RequestFault Bytes :=
  let path := target.takeWhile fun b => !isOneOf "?#" b
  let rest := target.drop path.length
  let query :=
    if rest.head? == some '?'.toUInt8 then (rest.drop 1).takeWhile (· != '#'.toUInt8) else []
  if path.all isPathOctet && query.all isQueryOctet then
    .ok (if path.isEmpty then ['/'.toUInt8] else path)
  else .error .invalidTargetOctet

/-- What has been seen of an authority. -/
structure Authority where
  colons : Nat := 0
  opened : Bool := false
  closed : Bool := false
  percent : Bool := false
  atEnd : Bool := false

/-- The largest number of colons in the host of an authority. -/
def maxColons : Nat := 8

/-- What an octet adds to an authority. -/
def Authority.add (seen : Authority) (b : UInt8) : Except RequestFault Authority :=
  let seen := { seen with atEnd := b == '@'.toUInt8 }
  if b == ':'.toUInt8 then
    if maxColons ≤ seen.colons then .error .invalidAuthority
    else .ok { seen with colons := seen.colons + 1 }
  else if b == '['.toUInt8 then
    if seen.percent || seen.opened then .error .invalidAuthority
    else .ok { seen with opened := true }
  else if b == ']'.toUInt8 then
    if !seen.opened || seen.closed then .error .invalidAuthority
    else .ok { seen with closed := true, colons := 0, percent := false }
  else if b == '@'.toUInt8 then .ok { seen with colons := 0, percent := false }
  else if b == '%'.toUInt8 then .ok { seen with percent := true }
  else if isAuthorityOctet b then .ok seen
  else .error .invalidTargetOctet

/-- Checks an authority. -/
def checkAuthority (authority : Bytes) : Except RequestFault Unit := do
  let seen ← authority.foldlM Authority.add {}
  if seen.opened != seen.closed || 1 < seen.colons || seen.atEnd || seen.percent then
    .error .invalidAuthority
  else .ok ()

/-- The largest number of octets in a scheme. -/
def maxScheme : Nat := 64

/-- What follows the scheme of a target, where there is a scheme. -/
def afterScheme? (target : Bytes) : Except RequestFault (Option Bytes) :=
  let scheme := target.takeWhile isSchemeOctet
  let rest := target.drop scheme.length
  if Text.encode "://" == rest.take 3 then
    if maxScheme < scheme.length then .error .schemeTooLong else .ok (some (rest.drop 3))
  else .ok none

/-- The largest number of octets in a target. -/
def maxTarget : Nat := 65534

/-- The path that a target asks for. -/
def path (target : Bytes) : Except RequestFault Bytes :=
  if maxTarget < target.length then .error .targetTooLong
  else if target.isEmpty then .error .emptyTarget
  else if target == Text.encode "*" then .ok target
  else if target.head? == some '/'.toUInt8 then pathOf target
  else
    match afterScheme? target with
    | .error fault => .error fault
    | .ok scheme =>
      let rest := scheme.getD target
      let authority := rest.takeWhile fun b => !endsAuthority b
      match checkAuthority authority with
      | .error fault => .error fault
      | .ok () =>
        if scheme.isSome then
          if authority.isEmpty then .error .invalidTargetForm
          else pathOf (rest.drop authority.length)
        else if authority.length == target.length then .ok []
        else if target.length == 1 then .error .invalidTargetOctet
        else .error .invalidTargetForm

end Uri

end Cellbook.Http
