import Cellbook.IoFault
import Cellbook.Text.Base64

/-!
# Channels

A channel takes byte sequences one send at a time and may fail at any of them.  Everything longer
than one send is a list of sends, delivered in order up to the first failure.
-/

namespace Cellbook

/-- What became of a send: nothing to report, or a fault. -/
abbrev SendOutcome := Except IoFault Unit

/-- A destination with state `σ` that takes one byte sequence at a time. -/
structure Channel (σ : Type) where
  /-- Delivers one byte sequence. -/
  send : σ → Bytes → σ × SendOutcome

namespace Channel

variable {σ : Type}

/-- Delivers byte sequences in order and stops at the first one that fails. -/
def sendAll (channel : Channel σ) : σ → List Bytes → σ × SendOutcome
  | state, [] => (state, .ok ())
  | state, bytes :: rest =>
    match channel.send state bytes with
    | (state, .ok ()) => channel.sendAll state rest
    | (state, .error fault) => (state, .error fault)

/-- Delivers a text in UTF-8, in one send. -/
def sendText (channel : Channel σ) (state : σ) (text : String) : σ × SendOutcome :=
  channel.send state (Text.encode text)

/-- What octets meet whose encoded form does not fit a line. -/
def lineTooShort : IoFault := ⟨.invalidInput, "Output slice is too small"⟩

/-- Delivers pieces in base64, one a send, and stops at the first that fails.  All of them are
encoded into one line, each over what is left of those before it. -/
def sendEncoded (channel : Channel σ) : σ → Bytes → List Bytes → σ × SendOutcome
  | state, _, [] => (state, .ok ())
  | state, line, piece :: rest =>
    match Base64.encodeInto? piece line with
    | none => (state, .error lineTooShort)
    | some (line, written) =>
      match channel.send state (line.take written) with
      | (state, .ok ()) => channel.sendEncoded state line rest
      | (state, .error fault) => (state, .error fault)

/-- Delivers bytes in base64, one line a send. -/
def sendBase64 (channel : Channel σ) (state : σ) (bytes : Bytes) : σ × SendOutcome :=
  channel.sendEncoded state (List.replicate Base64.lineWidth 0) (Base64.cut Base64.lineOctets bytes)

end Channel

end Cellbook
