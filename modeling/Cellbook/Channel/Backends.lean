import Cellbook.Channel.Basic

/-!
# Channel backends

Where sends can go without leaving the program: a record that keeps every send apart, a growing
buffer, and a buffer with limited room.
-/

namespace Cellbook

/-- A record of sends, and how many more it takes before its reader is gone. -/
structure Recorder where
  sends : List Bytes
  remaining : Option Nat
  deriving Repr, DecidableEq

namespace Recorder

/-- A record that takes `limit` sends, or any number. -/
def empty (limit : Option Nat) : Recorder := ⟨[], limit⟩

/-- What a send meets once the reader is gone. -/
def disconnected : IoFault := ⟨.brokenPipe, "client disconnected"⟩

/-- Keeps a send, if the reader is still there. -/
def send (recorder : Recorder) (bytes : Bytes) : Recorder × SendOutcome :=
  match recorder.remaining with
  | some 0 => (recorder, .error disconnected)
  | some (n + 1) => (⟨recorder.sends ++ [bytes], some n⟩, .ok ())
  | none => (⟨recorder.sends ++ [bytes], none⟩, .ok ())

/-- The channel that keeps every send apart. -/
def channel : Channel Recorder := ⟨send⟩

end Recorder

/-- The channel that appends every send to one buffer. -/
def bufferChannel : Channel Bytes := ⟨fun contents bytes => (contents ++ bytes, .ok ())⟩

/-- A buffer with limited room. -/
structure BoundedBuffer where
  contents : Bytes
  room : Nat
  deriving Repr, DecidableEq

namespace BoundedBuffer

/-- What a write meets when the buffer is full. -/
def full : IoFault := ⟨.writeZero, "failed to write whole buffer"⟩

/-- Stores what fits; a write that does not fit whole fails. -/
def send (buffer : BoundedBuffer) (bytes : Bytes) : BoundedBuffer × SendOutcome :=
  (⟨buffer.contents ++ bytes.take buffer.room, buffer.room - bytes.length⟩,
    if bytes.length ≤ buffer.room then .ok () else .error full)

/-- The channel into a buffer with limited room. -/
def channel : Channel BoundedBuffer := ⟨send⟩

end BoundedBuffer

end Cellbook
