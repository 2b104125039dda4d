import Cellbook.Channel.Backends
import Cellbook.Server.Fault

/-!
# Queues

Between a cell that runs and the body of its response stands a queue.  The cell sends chunks into it
and at last the fault it ended with, if it did; the response takes them out in the same order.  Once
the client is gone every send fails.
-/

namespace Cellbook.Server

/-- How many items wait in a queue before the cell has to wait. -/
def channelCapacity : Nat := 32

/-- What passes through a queue. -/
inductive QueueItem where
  | chunk (octets : Bytes)
  | failure (fault : ServerFault)
  deriving Repr, DecidableEq

/-- A queue: the items that wait, in order, and whether there is still a client. -/
structure Queue where
  items : List QueueItem := []
  connected : Bool := true
  deriving Repr, DecidableEq

namespace Queue

/-- Whether an item can be sent without waiting. -/
def hasRoom (queue : Queue) : Bool := queue.items.length < channelCapacity

/-- Adds an item, if there is still a client. -/
def push (queue : Queue) (item : QueueItem) : Queue :=
  if queue.connected then { queue with items := queue.items ++ [item] } else queue

/-- Sends a chunk. -/
def send (queue : Queue) (octets : Bytes) : Queue × SendOutcome :=
  (queue.push (.chunk octets),
    if queue.connected then .ok () else .error Recorder.disconnected)

/-- Tells the client of a fault, if there is still a client. -/
def fail (queue : Queue) (fault : ServerFault) : Queue := queue.push (.failure fault)

/-- Takes the item that has waited longest. -/
def receive? (queue : Queue) : Option (QueueItem × Queue) :=
  match queue.items with
  | [] => none
  | item :: rest => some (item, { queue with items := rest })

/-- The client goes away. -/
def close (_ : Queue) : Queue := ⟨[], false⟩

/-- The channel into a queue. -/
def channel : Channel Queue := ⟨send⟩

end Queue

end Cellbook.Server
