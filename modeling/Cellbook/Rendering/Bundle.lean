import Cellbook.Json.Quoted
import Cellbook.Keyed
import Cellbook.Text.Base64

/-!
# Mime bundles

A bundle maps mime types to payloads and keeps the order in which the mime types were first
inserted.  `Bundle.sends` is its written form, a JSON object cut into sends; binary payloads are
base64 and go out line by line.
-/

namespace Cellbook

/-- What stands under one mime type. -/
inductive Payload where
  /-- Text, written as a JSON string. -/
  | text (content : String)
  /-- Octets, written in base64. -/
  | binary (content : Bytes)
  deriving Repr, DecidableEq

/-- An ordered mapping from mime types to payloads. -/
structure Bundle where
  entries : List (String × Payload)
  deriving Repr, DecidableEq

namespace Bundle

/-- The bundle with no entries. -/
def empty : Bundle := ⟨[]⟩

/-- Sets the payload of a mime type, keeping the order of first insertion. -/
def insert (bundle : Bundle) (mime : String) (payload : Payload) : Bundle :=
  ⟨Keyed.set mime payload bundle.entries⟩

/-- The bundle with one entry. -/
def single (mime : String) (payload : Payload) : Bundle :=
  empty.insert mime payload

/-- The payload of a mime type. -/
def get? (bundle : Bundle) (mime : String) : Option Payload :=
  bundle.entries.lookup mime

/-- The number of mime types. -/
def size (bundle : Bundle) : Nat := bundle.entries.length

/-- The written form of a payload. -/
def payloadSends : Payload → List Bytes
  | .text content => [Text.encode (Json.quote content)]
  | .binary content => [Text.encode "\""] ++ Base64.lines content ++ [Text.encode "\""]

/-- The written form of one entry: its mime type, a colon, its payload. -/
def entrySends (entry : String × Payload) : List Bytes :=
  Text.encode (Json.quote entry.1) :: Text.encode ":" :: payloadSends entry.2

/-- The written form of a bundle. -/
def sends (bundle : Bundle) : List Bytes :=
  [Text.encode "\x7b"] ++
    ((bundle.entries.map entrySends).intersperse [Text.encode ","]).flatten ++
    [Text.encode "\x7d"]

end Bundle

end Cellbook
