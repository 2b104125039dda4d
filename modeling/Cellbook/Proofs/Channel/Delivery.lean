import Cellbook.Channel.Backends

/-!
# Delivery

What a channel does with a list of sends, one after another: it takes all of them
(`sendAll_eq_ok_iff`), or those before one that fails (`sendAll_eq_error_iff`).

A channel on which no send fails is described by the states it may be in: from any of them a send
succeeds and leads to another (`Channel.Reliable`).  Where it also has one destination, to which
every send is appended, the destination ends up with all that was sent (`Channel.Faithful`).
-/

namespace Cellbook.Channel

variable {σ : Type} {channel : Channel σ}

/-- Sends that follow sends are delivered from where the first left off, unless one of
them failed. -/
theorem sendAll_append (state : σ) (sends more : List Bytes) :
    channel.sendAll state (sends ++ more) =
      match channel.sendAll state sends with
      | (state, .ok ()) => channel.sendAll state more
      | (state, .error fault) => (state, .error fault) := by
  induction sends generalizing state with
  | nil => rfl
  | cons octets sends ih =>
      rw [List.cons_append, sendAll, sendAll]
      rcases channel.send state octets with ⟨next, ⟨⟩ | ⟨⟩⟩
      · rfl
      · exact ih next

/-- One send is a list of one. -/
theorem sendAll_singleton (state : σ) (octets : Bytes) :
    channel.sendAll state [octets] = channel.send state octets := by
  rw [sendAll]
  rcases channel.send state octets with ⟨next, fault | ⟨⟩⟩ <;> rfl

/-- From one state to another a channel takes sends in order, each of them. -/
inductive Takes (channel : Channel σ) : σ → List Bytes → σ → Prop
  | nil (state : σ) : Takes channel state [] state
  | cons {state next after : σ} {octets : Bytes} {sends : List Bytes}
      (hsend : channel.send state octets = (next, .ok ())) (h : Takes channel next sends after) :
      Takes channel state (octets :: sends) after

/-- Sends in a row succeed just if each of them is taken. -/
theorem sendAll_eq_ok_iff {state after : σ} {sends : List Bytes} :
    channel.sendAll state sends = (after, .ok ()) ↔ channel.Takes state sends after := by
  induction sends generalizing state with
  | nil =>
      constructor
      · rintro ⟨⟩
        exact .nil _
      · rintro ⟨⟩
        rfl
  | cons octets sends ih =>
      rw [sendAll]
      constructor
      · intro h
        rcases hsend : channel.send state octets with ⟨next, fault | ⟨⟩⟩
        all_goals rw [hsend] at h
        · cases h
        · exact .cons hsend (ih.mp h)
      · rintro (_ | ⟨hsend, h⟩)
        rw [hsend]
        exact ih.mpr h

/-- Sends in a row fail just as one of them does, after all before it were taken; those after it are
not made. -/
theorem sendAll_eq_error_iff {state after : σ} {sends : List Bytes} {fault : IoFault} :
    channel.sendAll state sends = (after, .error fault) ↔
      ∃ taken refused rest between, sends = taken ++ refused :: rest ∧
        channel.Takes state taken between ∧ channel.send between refused = (after, .error fault) := by
  constructor
  · intro h
    induction sends generalizing state with
    | nil => cases h
    | cons octets sends ih =>
        rw [sendAll] at h
        rcases hsend : channel.send state octets with ⟨next, failed | ⟨⟩⟩
        all_goals rw [hsend] at h
        · cases h
          exact ⟨[], octets, sends, state, rfl, .nil state, hsend⟩
        · obtain ⟨taken, refused, rest, between, rfl, htaken, hrefused⟩ := ih h
          exact ⟨octets :: taken, refused, rest, between, rfl, .cons hsend htaken, hrefused⟩
  · rintro ⟨taken, refused, rest, between, rfl, htaken, hrefused⟩
    rw [sendAll_append, sendAll_eq_ok_iff.mpr htaken]
    simp only [sendAll, hrefused]

/-- No send fails in the states `good`, and every send leads from one of them to another. -/
structure Reliable (channel : Channel σ) (good : σ → Prop) : Prop where
  succeeds : ∀ {state : σ}, good state → ∀ octets, (channel.send state octets).2 = .ok ()
  stays : ∀ {state : σ}, good state → ∀ octets, good (channel.send state octets).1

namespace Reliable

variable {good : σ → Prop} {state : σ}

theorem send_eq (h : channel.Reliable good) (hstate : good state) (octets : Bytes) :
    channel.send state octets = ((channel.send state octets).1, .ok ()) :=
  Prod.ext rfl (h.succeeds hstate octets)

theorem sendAll_cons (h : channel.Reliable good) (hstate : good state) (octets : Bytes)
    (sends : List Bytes) :
    channel.sendAll state (octets :: sends) =
      channel.sendAll (channel.send state octets).1 sends := by
  rw [sendAll, h.send_eq hstate]

/-- All sends succeed. -/
theorem sendAll_succeeds (h : channel.Reliable good) (hstate : good state) (sends : List Bytes) :
    (channel.sendAll state sends).2 = .ok () := by
  induction sends generalizing state with
  | nil => rfl
  | cons octets sends ih =>
      rw [h.sendAll_cons hstate]
      exact ih (h.stays hstate octets)

theorem sendAll_stays (h : channel.Reliable good) (hstate : good state) (sends : List Bytes) :
    good (channel.sendAll state sends).1 := by
  induction sends generalizing state with
  | nil => exact hstate
  | cons octets sends ih =>
      rw [h.sendAll_cons hstate]
      exact ih (h.stays hstate octets)

/-- Sends that follow sends are delivered from where the first left off. -/
theorem sendAll_append (h : channel.Reliable good) (hstate : good state) (sends more : List Bytes) :
    channel.sendAll state (sends ++ more) =
      channel.sendAll (channel.sendAll state sends).1 more := by
  have hsends : channel.sendAll state sends = ((channel.sendAll state sends).1, .ok ()) :=
    Prod.ext rfl (h.sendAll_succeeds hstate sends)
  rw [Channel.sendAll_append, hsends]

end Reliable

/-- A reliable channel with one destination, whose content is `delivered`. -/
structure Faithful (channel : Channel σ) (good : σ → Prop) (delivered : σ → Bytes) : Prop
    extends channel.Reliable good where
  appends : ∀ {state : σ}, good state → ∀ octets,
    delivered (channel.send state octets).1 = delivered state ++ octets

/-- The destination of a faithful channel receives all sends, in order. -/
theorem Faithful.delivered_sendAll {good : σ → Prop} {delivered : σ → Bytes} {state : σ}
    (h : channel.Faithful good delivered) (hstate : good state) (sends : List Bytes) :
    delivered (channel.sendAll state sends).1 = delivered state ++ sends.flatten := by
  induction sends generalizing state with
  | nil => simp [sendAll]
  | cons octets sends ih =>
      rw [h.sendAll_cons hstate, ih (h.stays hstate octets), h.appends hstate, List.flatten_cons,
        List.append_assoc]

end Cellbook.Channel

namespace Cellbook

/-- The growing buffer is faithful in every state. -/
theorem faithful_bufferChannel : bufferChannel.Faithful (fun _ => True) id where
  succeeds _ _ := rfl
  stays _ _ := trivial
  appends _ _ := rfl

namespace Recorder

/-- The record of any number of sends is faithful. -/
theorem faithful_channel : Recorder.channel.Faithful (fun recorder => recorder.remaining = none)
    (fun recorder => recorder.sends.flatten) where
  succeeds := by
    rintro ⟨sends, remaining⟩ rfl octets
    rfl
  stays := by
    rintro ⟨sends, remaining⟩ rfl octets
    rfl
  appends := by
    rintro ⟨sends, remaining⟩ rfl octets
    exact List.flatten_concat

/-- The record of any number of sends keeps each of them. -/
theorem sendAll_channel (kept sends : List Bytes) :
    Recorder.channel.sendAll ⟨kept, none⟩ sends = (⟨kept ++ sends, none⟩, .ok ()) := by
  induction sends generalizing kept with
  | nil => simp [Channel.sendAll]
  | cons octets sends ih =>
      have hsend :
          Recorder.channel.send ⟨kept, none⟩ octets = (⟨kept ++ [octets], none⟩, .ok ()) := rfl
      rw [Channel.sendAll, hsend]
      simpa using ih (kept ++ [octets])

end Recorder

end Cellbook
