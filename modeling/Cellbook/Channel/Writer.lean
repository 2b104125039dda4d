import Cellbook.Channel.Backends

/-!
# Writers

A writer takes as much of a write as it likes, from the front.  A channel over a writer hands over
what is left of a send until all of it is taken, and then has the writer pass on what it holds back.
-/

namespace Cellbook

/-- A destination with state `σ` that may take a part of what it is handed.  What it answers is what
comes of a write once it is no longer interrupted. -/
structure Writer (σ : Type) where
  /-- Takes octets from the front, and answers how many. -/
  write : σ → Bytes → σ × Except IoFault Nat
  /-- Passes on what is held back. -/
  flush : σ → σ × SendOutcome

namespace Writer

variable {σ : Type}

/-- Hands octets over until all of them are taken, or none is. -/
def writeAll (writer : Writer σ) (state : σ) (octets : Bytes) : σ × SendOutcome :=
  match octets with
  | [] => (state, .ok ())
  | first :: rest =>
    match writer.write state (first :: rest) with
    | (state, .ok 0) => (state, .error BoundedBuffer.full)
    | (state, .ok (taken + 1)) => writer.writeAll state (rest.drop taken)
    | (state, .error fault) => (state, .error fault)
termination_by octets.length
decreasing_by
  rw [List.length_drop, List.length_cons]
  omega

/-- The channel over a writer. -/
def channel (writer : Writer σ) : Channel σ where
  send state octets :=
    match writer.writeAll state octets with
    | (state, .ok ()) => writer.flush state
    | (state, .error fault) => (state, .error fault)

/-- The writer that takes all there is. -/
def growing : Writer Bytes where
  write contents octets := (contents ++ octets, .ok octets.length)
  flush contents := (contents, .ok ())

/-- The writer that takes what there is room for. -/
def bounded : Writer BoundedBuffer where
  write buffer octets :=
    (⟨buffer.contents ++ octets.take buffer.room, buffer.room - octets.length⟩,
      .ok (min buffer.room octets.length))
  flush buffer := (buffer, .ok ())

end Writer

end Cellbook
