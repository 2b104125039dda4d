import Cellbook.Proofs.Channel.Limit
import Cellbook.Proofs.Channel.Delivery
import Cellbook.Proofs.Text.Pieces
import Cellbook.Radio.Channel
import Cellbook.Radio.Simulated

/-!
# Notifications

A send to the central goes out in fragments, each in a notification of its own.  The fragments put
together are what was sent, and all but the last fill a notification (`fragmented_cut`).

Whatever the server, one that keeps what it notifies and notifies a limited number of times delivers
of a send its first fragments (`GattServer.Limited.sent`), and one that stays connected and never
fails is a faithful channel (`GattServer.Linked.faithful`).
-/

namespace Cellbook.Radio

open Channel (Lasts taken)

/-- A cut of octets into fragments of at most `size`, of which all but the last have that size. -/
structure Fragmented (size : Nat) (octets : Bytes) (fragments : List Bytes) : Prop where
  flatten_eq : fragments.flatten = octets
  length_pos : ∀ fragment ∈ fragments, 1 ≤ fragment.length
  length_le : ∀ fragment ∈ fragments, fragment.length ≤ size
  full : ∀ fragment ∈ fragments.dropLast, fragment.length = size

theorem fragmented_cut {size : Nat} (hsize : 0 < size) (octets : Bytes) :
    Fragmented size octets (Base64.cut size octets) where
  flatten_eq := Base64.flatten_cutUpTo hsize (Nat.le_refl _)
  length_pos _ h := List.length_pos_iff.mpr (Base64.cutUpTo_ne_nil hsize h)
  length_le _ h := Base64.length_le_of_mem_cutUpTo h
  full _ h := Base64.length_eq_of_mem_dropLast_cutUpTo h

namespace GattServer

variable {γ : Type}

/-- Notifications as a channel: one send is one notification. -/
def notifier (server : GattServer γ) : Channel γ where
  send state fragment :=
    let (state, outcome) := server.notify state fragment
    (state, outcome.mapError fun report => ⟨.other, (RadioFault.notify report).message⟩)

/-- A server that keeps what it notifies.  It notifies as many more times as `left` says, or any
number of times.  The central may come and go. -/
structure Limited (server : GattServer γ) (notified : γ → List Bytes) (left : γ → Option Nat) :
    Prop where
  notified_eq : ∀ state, notified (server.isConnected state).1 = notified state
  left_eq : ∀ state, left (server.isConnected state).1 = left state
  notifies : server.notifier.Limited notified left

/-- In the states `good` the central is connected and stays so, and no notification fails. -/
structure Linked (server : GattServer γ) (good : γ → Prop) (delivered : γ → Bytes) : Prop where
  connected : ∀ {state : γ}, good state → (server.isConnected state).2 = true
  stays : ∀ {state : γ}, good state → good (server.isConnected state).1
  delivered_eq : ∀ {state : γ}, good state →
    delivered (server.isConnected state).1 = delivered state
  notifies : server.notifier.Faithful good delivered

variable {server : GattServer γ} {state : γ}

/-! ## Sends as lists of notifications -/

/-- What a channel makes of a fault of the radio. -/
def sendOutcome (outcome : Except RadioFault Unit) : SendOutcome :=
  outcome.mapError fun fault => ⟨.other, fault.message⟩

theorem sendAll_notifier (state : γ) (fragments : List Bytes) :
    server.notifier.sendAll state fragments =
      Prod.map id sendOutcome (server.notifyAll state fragments) := by
  induction fragments generalizing state with
  | nil => rfl
  | cons fragment fragments ih =>
      rw [notifyAll, Channel.sendAll]
      rcases hnotify : server.notify state fragment with ⟨next, report | ⟨⟩⟩
      · simp only [notifier, hnotify]
        rfl
      · simp only [notifier, hnotify]
        exact ih next

/-- A send to a central that is there is a notification of each fragment. -/
theorem send_of_connected (hconnected : (server.isConnected state).2 = true) (octets : Bytes) :
    server.channel.send state octets =
      server.notifier.sendAll (server.isConnected state).1 (Base64.cut notifySize octets) := by
  rcases hasked : server.isConnected state with ⟨next, connected⟩
  obtain rfl : connected = true := by rwa [hasked] at hconnected
  simp only [channel, send, hasked]
  exact (sendAll_notifier next (Base64.cut notifySize octets)).symm

/-- A send to a central that is not there succeeds. -/
theorem send_of_not_connected (hconnected : (server.isConnected state).2 = false)
    (octets : Bytes) :
    server.channel.send state octets = ((server.isConnected state).1, .ok ()) := by
  rcases hasked : server.isConnected state with ⟨next, connected⟩
  obtain rfl : connected = false := by rwa [hasked] at hconnected
  simp only [channel, send, hasked]
  rfl

/-! ## Servers that fail after some notifications -/

/-- How a send of `fragments` goes from `before` to `after` when `n` more notifications succeed:
whole, or as far as they go. -/
structure Partly (notified : γ → List Bytes) (n : Nat) (fragments : List Bytes) (before after : γ)
    (outcome : SendOutcome) : Prop where
  whole : fragments.length ≤ n → notified after = notified before ++ fragments ∧ outcome = .ok ()
  cut : n < fragments.length →
    notified after = notified before ++ fragments.take n ∧ ∃ fault, outcome = .error fault

/-- What a send over the radio comes to, by whether a central is connected and how many more
notifications succeed. -/
structure Sent (server : GattServer γ) (notified : γ → List Bytes) (left : γ → Option Nat)
    (state : γ) (octets : Bytes) (fragments : List Bytes) : Prop where
  unlimited : (server.isConnected state).2 = true → left state = none →
    notified (server.channel.send state octets).1 = notified state ++ fragments ∧
      (server.channel.send state octets).2 = .ok ()
  limited : (server.isConnected state).2 = true → ∀ n, left state = some n →
    Partly notified n fragments state (server.channel.send state octets).1
      (server.channel.send state octets).2
  dropped : (server.isConnected state).2 = false →
    notified (server.channel.send state octets).1 = notified state ∧
      (server.channel.send state octets).2 = .ok ()

namespace Limited

variable {notified : γ → List Bytes} {left : γ → Option Nat}

/-- Of a send to a central that is there the fragments are notified, as many as are left. -/
theorem delivered_send (h : server.Limited notified left)
    (hconnected : (server.isConnected state).2 = true) (octets : Bytes) :
    let fragments := Base64.cut notifySize octets
    notified (server.channel.send state octets).1 =
        notified state ++ taken (left state) fragments ∧
      ((server.channel.send state octets).2 = .ok () ↔ Lasts (left state) fragments) := by
  intro fragments
  obtain ⟨hdelivered, hlasts⟩ := h.notifies.delivered_sendAll (server.isConnected state).1 fragments
  have hnotified := hdelivered.record_eq
  rw [h.left_eq] at hlasts hnotified
  rw [h.notified_eq] at hnotified
  rw [send_of_connected hconnected]
  exact ⟨hnotified, hlasts⟩

theorem sent (h : server.Limited notified left) (state : γ) (octets : Bytes) :
    server.Sent notified left state octets (Base64.cut notifySize octets) where
  unlimited hconnected hleft := by
    obtain ⟨hnotified, hlasts⟩ := h.delivered_send hconnected octets
    rw [hleft] at hnotified hlasts
    exact ⟨hnotified, hlasts.mpr (Channel.lasts_none _)⟩
  limited hconnected n hleft := by
    obtain ⟨hnotified, hlasts⟩ := h.delivered_send hconnected octets
    rw [hleft] at hnotified hlasts
    rw [Channel.lasts_some_iff] at hlasts
    constructor
    · intro hfits
      refine ⟨hnotified.trans ?_, hlasts.mpr hfits⟩
      rw [taken, List.take_of_length_le hfits]
    · intro hshort
      refine ⟨hnotified, ?_⟩
      cases houtcome : (server.channel.send state octets).2 with
      | error fault => exact ⟨fault, rfl⟩
      | ok => exact absurd (hlasts.mp houtcome) (Nat.not_le.mpr hshort)
  dropped hconnected := by
    rw [send_of_not_connected hconnected]
    exact ⟨h.notified_eq state, rfl⟩

/-- Whatever a send notifies, it is fragments of it. -/
theorem mem_cut_of_mem_notified (h : server.Limited notified left) {octets fragment : Bytes}
    (hmem : fragment ∈ notified (server.channel.send state octets).1) :
    fragment ∈ notified state ∨ fragment ∈ Base64.cut notifySize octets := by
  cases hconnected : (server.isConnected state).2 with
  | false =>
      rw [((h.sent state octets).dropped hconnected).1] at hmem
      exact .inl hmem
  | true =>
      rw [(h.delivered_send hconnected octets).1] at hmem
      rcases List.mem_append.mp hmem with hmem | hmem
      · exact .inl hmem
      · refine .inr ?_
        cases hleft : left state with
        | none => rwa [hleft] at hmem
        | some n =>
            rw [hleft] at hmem
            exact List.mem_of_mem_take hmem

end Limited

/-! ## Servers that never fail -/

/-- The channel to a central that stays is faithful. -/
theorem Linked.faithful {good : γ → Prop} {delivered : γ → Bytes}
    (h : server.Linked good delivered) : server.channel.Faithful good delivered where
  succeeds hstate octets := by
    rw [send_of_connected (h.connected hstate)]
    exact h.notifies.sendAll_succeeds (h.stays hstate) _
  stays hstate octets := by
    rw [send_of_connected (h.connected hstate)]
    exact h.notifies.sendAll_stays (h.stays hstate) _
  appends hstate octets := by
    rw [send_of_connected (h.connected hstate), h.notifies.delivered_sendAll (h.stays hstate),
      h.delivered_eq hstate, (fragmented_cut (by decide) octets).flatten_eq]

end GattServer

namespace SimulatedRadio

/-- A simulated radio fails once its budget is spent. -/
theorem limited_server : server.Limited notified budget where
  notified_eq _ := rfl
  left_eq _ := rfl
  notifies :=
    { delivered := by
        rintro ⟨connected, _ | _ | n, report, notified, advertised⟩ octets
        · exact ⟨rfl, rfl⟩
        · exact ⟨(List.append_nil notified).symm, rfl⟩
        · exact ⟨by simp [GattServer.notifier, server, notify, taken], rfl⟩
      succeeds := by
        rintro ⟨connected, _ | _ | n, report, notified, advertised⟩ hleft octets
        · rfl
        · exact absurd rfl hleft
        · rfl
      refuses := by
        rintro ⟨connected, budget, report, notified, advertised⟩ rfl octets
        exact ⟨_, rfl⟩ }

/-- A simulated radio with a central and any number of notifications left is linked. -/
theorem linked_server :
    server.Linked (fun radio => radio.connected = true ∧ radio.budget = none)
      (fun radio => radio.notified.flatten) where
  connected h := h.1
  stays h := h
  delivered_eq _ := rfl
  notifies :=
    { succeeds := by
        rintro ⟨connected, budget, report, notified, advertised⟩ ⟨rfl, rfl⟩ octets
        rfl
      stays := by
        rintro ⟨connected, budget, report, notified, advertised⟩ ⟨rfl, rfl⟩ octets
        exact ⟨rfl, rfl⟩
      appends := by
        rintro ⟨connected, budget, report, notified, advertised⟩ ⟨rfl, rfl⟩ octets
        exact List.flatten_concat }

end SimulatedRadio

end Cellbook.Radio
