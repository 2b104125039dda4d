import Cellbook.Json.Number
import Cellbook.Json.Unquoted

/-!
# Values passed over

Passes over one value of any kind.  The lists and objects that are open are held in a list, so
nesting may go as deep as the text does.
-/

namespace Cellbook.Json

/-- A list or an object that is open. -/
inductive Frame where
  | list | object
  deriving Repr, DecidableEq

/-- The cause where the text ends within a frame. -/
def Frame.ending : Frame → Cause
  | .list => .endInList
  | .object => .endInObject

/-- The cause where a value in a frame is followed by something else. -/
def Frame.separator : Frame → Cause
  | .list => .expectedCommaOrBracket
  | .object => .expectedCommaOrBrace

/-- The octet that closes a frame. -/
def Frame.closing : Frame → UInt8
  | .list => ']'.toUInt8
  | .object => 0x7d

/-- Passes over a value that is not a list or an object, or opens one that is. -/
def skipHead : Reader (Option Frame) := do
  match ← peekToken? with
  | none => failAhead .endInValue
  | some b =>
    if b == 'n'.toUInt8 then do expectWord ['n', 'u', 'l', 'l']; pure none
    else if b == 't'.toUInt8 then do expectWord ['t', 'r', 'u', 'e']; pure none
    else if b == 'f'.toUInt8 then do expectWord ['f', 'a', 'l', 's', 'e']; pure none
    else if b == '-'.toUInt8 then do advance; skipNumber true; pure none
    else if isDigit b then do skipNumber false; pure none
    else if b == '"'.toUInt8 then do advance; skipString; pure none
    else if b == '['.toUInt8 then do advance; pure (some .list)
    else if b == 0x7b then do advance; pure (some .object)
    else failAhead .expectedValue

/-- Passes over a key and its colon. -/
def skipKey : Reader Unit := do
  match ← peekToken? with
  | none => failAhead .endInObject
  | some b => if b == '"'.toUInt8 then advance else failAhead .keyNotString
  skipString
  match ← peekToken? with
  | none => failAhead .endInObject
  | some b => if b == ':'.toUInt8 then advance else failAhead .expectedColon

/-- Closes the frames that end here, innermost first, after a value (`filled`) or right after the
innermost was opened.  Answers the frames still open, before a value of the innermost. -/
def closeFrames (filled : Bool) : List Frame → Reader (List Frame)
  | [] => pure []
  | frame :: outer => do
    match ← peekToken? with
    | none => failAhead frame.ending
    | some b =>
      if b == ','.toUInt8 && filled then do
        advance
        pure (frame :: outer)
      else if b == frame.closing then do
        advance
        closeFrames true outer
      else if filled then failAhead frame.separator
      else pure (frame :: outer)

/-- Passes over the rest of the frames that are open, before a value of the innermost.  Each value
takes up an octet at least, so that there are no more than octets ahead, which are given first. -/
def skipFrames : Bytes → List Frame → Reader Unit
  | [], _ => failAhead .endInValue
  | _ :: fuel, frames => do
    let opened ← skipHead
    let remaining ← closeFrames opened.isNone (opened.toList ++ frames)
    match remaining with
    | [] => pure ()
    | frame :: outer => do
      if frame == .object then skipKey
      skipFrames fuel (frame :: outer)

/-- Passes over one value. -/
def skipValue : Reader Unit := do
  skipFrames (← get).rest []

end Cellbook.Json
