/-!
# Output routing

Where printed text goes.  Every stream has a process-wide destination, and every thread may have a
capture in place that takes what is written on that thread, on any stream.

* `redirect` puts a capture in place and answers a guard, which keeps what was there before.
  Dropping the guard puts that back, whichever guards were created or dropped in between.
* A capture may itself write while it handles a text.  Its slot is borrowed as long as it does
  (`Slot`), so that what it writes does not come back to it but goes to the process-wide destination
  of the stream (`write_of_some`).
-/

namespace Cellbook.Output

/-- The number of a stream. -/
abbrev StreamId := Nat

/-- The number of a thread. -/
abbrev ThreadId := Nat

/-- A destination that takes all that is written on a thread. -/
structure Capture (δ : Type) where
  destination : δ
  /-- What it writes itself while it handles a text, and on which streams. -/
  reaction : String → List (StreamId × String) := fun _ => []

/-- A capture that writes nothing itself. -/
def Capture.plain {δ : Type} (destination : δ) : Capture δ := { destination }

/-- The place for the capture of a thread, as a write finds it. -/
inductive Slot (δ : Type) where
  | free (capture : Option (Capture δ))
  /-- The capture is handling a text, and cannot take another. -/
  | borrowed

/-- The capture that takes what is written, if one can. -/
def Slot.capture? {δ : Type} : Slot δ → Option (Capture δ)
  | free capture => capture
  | borrowed => none

/-- Where text goes: the process-wide destination of each stream and the capture of each thread. -/
structure Routing (δ : Type) where
  destination : StreamId → δ
  capture : ThreadId → Option (Capture δ)

/-- The thread of a redirection and the capture that was in place before it. -/
structure Guard (δ : Type) where
  thread : ThreadId
  previous : Option (Capture δ)

namespace Routing

variable {δ : Type}

/-- Streams with process-wide destinations and no captures. -/
def start (destination : StreamId → δ) : Routing δ := ⟨destination, fun _ => none⟩

/-- Delivers a text by the slot of its thread as it is found; answers also what the capture that
handles the text writes itself. -/
def deliver (routing : Routing δ) (slot : Slot δ) (stream : StreamId) (text : String) :
    (δ × String) × List (StreamId × String) :=
  match slot.capture? with
  | some capture => ((capture.destination, text), capture.reaction text)
  | none => ((routing.destination stream, text), [])

/-- The texts delivered by a write, each with its destination, in order.  What a capture writes
itself finds the slot borrowed, so that no capture comes to write because of it
(`deliver_borrowed`). -/
def write (routing : Routing δ) (thread : ThreadId) (stream : StreamId) (text : String) :
    List (δ × String) :=
  let (delivered, written) := routing.deliver (.free (routing.capture thread)) stream text
  delivered :: written.map fun w => (routing.deliver .borrowed w.1 w.2).1

/-- Sets the process-wide destination of a stream; answers the one it had. -/
def replace (routing : Routing δ) (stream : StreamId) (destination : δ) : Routing δ × δ :=
  ({ routing with
      destination := fun s => if s = stream then destination else routing.destination s },
    routing.destination stream)

/-- Sets what captures the writes of a thread. -/
def setCapture (routing : Routing δ) (thread : ThreadId) (capture : Option (Capture δ)) :
    Routing δ :=
  { routing with capture := fun t => if t = thread then capture else routing.capture t }

/-- Puts a capture in place on a thread; the guard keeps the one it had. -/
def redirect (routing : Routing δ) (thread : ThreadId) (capture : Capture δ) :
    Routing δ × Guard δ :=
  (routing.setCapture thread (some capture), ⟨thread, routing.capture thread⟩)

/-- Puts back what a guard keeps. -/
def drop (routing : Routing δ) (guard : Guard δ) : Routing δ :=
  routing.setCapture guard.thread guard.previous

/-! A capture changes what becomes of the texts of one thread and nothing else; a replacement
changes one destination and nothing else. -/

section Lemmas

variable (routing : Routing δ)

@[simp] theorem capture_setCapture_self (thread : ThreadId) (capture : Option (Capture δ)) :
    (routing.setCapture thread capture).capture thread = capture := if_pos rfl

theorem capture_setCapture_of_ne {thread other : ThreadId} (h : other ≠ thread)
    (capture : Option (Capture δ)) :
    (routing.setCapture thread capture).capture other = routing.capture other := if_neg h

@[simp] theorem destination_replace_self (stream : StreamId) (destination : δ) :
    (routing.replace stream destination).1.destination stream = destination := if_pos rfl

theorem destination_replace_of_ne {stream other : StreamId} (h : other ≠ stream)
    (destination : δ) :
    (routing.replace stream destination).1.destination other = routing.destination other :=
  if_neg h

/-- A redirection whose guard is dropped has changed nothing. -/
theorem drop_redirect (thread : ThreadId) (capture : Capture δ) :
    (routing.redirect thread capture).1.drop (routing.redirect thread capture).2 = routing := by
  have hcapture : ((routing.redirect thread capture).1.drop
      (routing.redirect thread capture).2).capture = routing.capture := by
    funext other
    by_cases h : other = thread
    · rw [h]
      exact capture_setCapture_self ..
    · exact (capture_setCapture_of_ne _ h _).trans (capture_setCapture_of_ne _ h _)
  exact congrArg (Routing.mk routing.destination) hcapture

/-- A text that finds the slot borrowed goes to the stream's own destination, and no capture gets to
write because of it. -/
theorem deliver_borrowed (stream : StreamId) (text : String) :
    routing.deliver .borrowed stream text = ((routing.destination stream, text), []) := rfl

variable {routing}

/-- Without a capture a text goes to the stream's own destination. -/
theorem write_of_none {thread : ThreadId} (h : routing.capture thread = none) (stream : StreamId)
    (text : String) : routing.write thread stream text = [(routing.destination stream, text)] := by
  rw [write, h]
  rfl

/-- A capture takes the text, whatever the stream, and what it writes itself goes to the own
destinations of the streams. -/
theorem write_of_some {thread : ThreadId} {capture : Capture δ}
    (h : routing.capture thread = some capture) (stream : StreamId) (text : String) :
    routing.write thread stream text =
      (capture.destination, text) ::
        (capture.reaction text).map fun w => (routing.destination w.1, w.2) := by
  rw [write, h]
  simp only [deliver_borrowed]
  rfl

end Lemmas

end Routing

end Cellbook.Output
