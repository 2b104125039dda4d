import Cellbook.Proofs.Channel.Delivery
import Cellbook.Server.Queue

/-!
# Queues that are drained

A send into a queue that is full waits until the client has taken an item out.  How many items the
client takes between two sends is otherwise up to the client: it is the `pace` of a `Drain`, of which
nothing is assumed.

At any pace the channel into the queue is faithful (`Drain.faithful_channel`): the client gets all
that is sent, in order, and there are never more items in the queue than there is room for.
-/

namespace Cellbook.Server

/-- The octets of an item. -/
def QueueItem.octets : QueueItem → Bytes
  | .chunk octets => octets
  | .failure _ => []

/-- A queue, and the client at its other end. -/
structure Drain where
  queue : Queue := {}
  /-- What the client has taken. -/
  received : List QueueItem := []
  /-- How many items the client takes before each of the sends to come. -/
  pace : List Nat := []
  deriving Repr, DecidableEq

namespace Drain

/-- The client takes items, as long as there are any. -/
def takeUpTo : Nat → Drain → Drain
  | 0, drain => drain
  | n + 1, drain =>
    match drain.queue.receive? with
    | none => drain
    | some (item, rest) =>
      takeUpTo n { drain with queue := rest, received := drain.received ++ [item] }

/-- The client takes what it takes before a send, and one more if there is no room then. -/
def awaitRoom (drain : Drain) : Drain :=
  let waiting := drain.takeUpTo (drain.pace.headD 0)
  if waiting.queue.hasRoom then waiting else waiting.takeUpTo 1

/-- Sends a chunk once there is room. -/
def send (drain : Drain) (octets : Bytes) : Drain × SendOutcome :=
  let ready := drain.awaitRoom
  let (queue, outcome) := ready.queue.send octets
  ({ ready with queue := queue, pace := ready.pace.tail }, outcome)

/-- The channel into a queue that is drained. -/
def channel : Channel Drain := ⟨send⟩

/-- The octets that the client has once it has taken everything. -/
def delivered (drain : Drain) : Bytes :=
  (drain.takeUpTo drain.queue.items.length).received.flatMap QueueItem.octets

/-- There is a client, and the queue holds no more than there is room for. -/
structure Flowing (drain : Drain) : Prop where
  connected : drain.queue.connected = true
  length_le : drain.queue.items.length ≤ channelCapacity

/-! ## What the client takes -/

theorem takeUpTo_eq (n : Nat) (drain : Drain) :
    drain.takeUpTo n =
      { drain with
        queue := { drain.queue with items := drain.queue.items.drop n }
        received := drain.received ++ drain.queue.items.take n } := by
  induction n generalizing drain with
  | zero => simp [takeUpTo]
  | succ n ih =>
      rcases drain with ⟨⟨_ | ⟨item, rest⟩, connected⟩, received, pace⟩
      · simp [takeUpTo, Queue.receive?]
      · simpa [takeUpTo, Queue.receive?] using
          ih ⟨⟨rest, connected⟩, received ++ [item], pace⟩

/-- In the end the client has what it has taken and what still waits. -/
theorem delivered_eq (drain : Drain) :
    drain.delivered = (drain.received ++ drain.queue.items).flatMap QueueItem.octets := by
  rw [delivered, takeUpTo_eq, List.take_of_length_le (Nat.le_refl _)]

theorem delivered_takeUpTo (n : Nat) (drain : Drain) :
    (drain.takeUpTo n).delivered = drain.delivered := by
  rw [delivered_eq, delivered_eq, takeUpTo_eq, List.append_assoc, List.take_append_drop]

theorem delivered_awaitRoom (drain : Drain) : drain.awaitRoom.delivered = drain.delivered := by
  simp only [awaitRoom]
  split <;> simp only [delivered_takeUpTo]

theorem Flowing.takeUpTo {drain : Drain} (h : drain.Flowing) (n : Nat) :
    (drain.takeUpTo n).Flowing := by
  rw [takeUpTo_eq]
  refine ⟨h.connected, ?_⟩
  rw [List.length_drop]
  exact Nat.le_trans (Nat.sub_le _ _) h.length_le

/-- No send waits for ever: once the client has taken an item there is room. -/
theorem Flowing.awaitRoom {drain : Drain} (h : drain.Flowing) :
    drain.awaitRoom.Flowing ∧ drain.awaitRoom.queue.hasRoom = true := by
  have hwaiting := h.takeUpTo (drain.pace.headD 0)
  simp only [Drain.awaitRoom]
  split
  case isTrue hroom => exact ⟨hwaiting, hroom⟩
  case isFalse hfull =>
    refine ⟨hwaiting.takeUpTo 1, ?_⟩
    have hlength := hwaiting.length_le
    have hcapacity : 0 < channelCapacity := by decide
    rw [takeUpTo_eq 1, Queue.hasRoom, decide_eq_true_eq, List.length_drop]
    omega

/-! ## Sends -/

theorem send_eq {drain : Drain} (h : drain.Flowing) (octets : Bytes) :
    drain.send octets =
      ({ drain.awaitRoom with
          queue := ⟨drain.awaitRoom.queue.items ++ [.chunk octets], true⟩
          pace := drain.awaitRoom.pace.tail },
        .ok ()) := by
  rcases hready : drain.awaitRoom with ⟨⟨items, connected⟩, received, pace⟩
  have hconnected : connected = true := by
    have hflowing := h.awaitRoom.1.connected
    rwa [hready] at hflowing
  subst hconnected
  simp only [send, hready]
  rfl

/-- At any pace, what is sent into the queue is what the client gets. -/
theorem faithful_channel : Drain.channel.Faithful Flowing delivered where
  succeeds h octets := congrArg Prod.snd (send_eq h octets)
  stays {drain} h octets := by
    have hroom : drain.awaitRoom.queue.items.length < channelCapacity :=
      of_decide_eq_true h.awaitRoom.2
    have hsend : Drain.channel.send drain octets = _ := send_eq h octets
    rw [hsend]
    refine ⟨rfl, ?_⟩
    rw [List.length_append]
    exact hroom
  appends {drain} h octets := by
    have hsend : Drain.channel.send drain octets = _ := send_eq h octets
    rw [hsend, ← delivered_awaitRoom drain, delivered_eq, delivered_eq, ← List.append_assoc,
      List.flatMap_append]
    simp [QueueItem.octets]

end Drain

end Cellbook.Server
