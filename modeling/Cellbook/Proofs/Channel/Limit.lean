import Cellbook.Channel.Backends

/-!
# Channels that end

A channel whose client goes away takes some number of sends and refuses every one after them.
`Channel.Limited` describes such a channel by a record of what it took and by how many more sends it
takes; a channel that takes any number never fails.

What sends come to on such a channel is `Delivered`: of all of them as many as are taken, from the
front.  The relation is closed under sequencing (`Delivered.trans`), so it is followed through a
list of sends (`Limited.delivered_sendAll`) as through anything else that sends.
-/

namespace Cellbook.Channel

variable {σ : Type} {channel : Channel σ} {record : σ → List Bytes} {left : σ → Option Nat}

/-! ## Limits -/

/-- As many of the sends, from the front, as are taken: `left`, or any number. -/
def taken (left : Option Nat) (sends : List Bytes) : List Bytes :=
  match left with
  | none => sends
  | some n => sends.take n

/-- The sends are all taken. -/
def Lasts (left : Option Nat) (sends : List Bytes) : Prop := ∀ n, left = some n → sends.length ≤ n

theorem lasts_none (sends : List Bytes) : Lasts none sends := nofun

theorem lasts_some_iff {n : Nat} {sends : List Bytes} : Lasts (some n) sends ↔ sends.length ≤ n :=
  ⟨fun h => h n rfl, fun h m hm => by cases hm; exact h⟩

theorem lasts_nil (left : Option Nat) : Lasts left [] := fun n _ => Nat.zero_le n

/-- Sends that follow sends are all taken if those before them leave room for them. -/
theorem lasts_append_iff {left : Option Nat} {sends more : List Bytes} (h : more ≠ []) :
    Lasts left (sends ++ more) ↔ Lasts (left.map (· - sends.length)) more := by
  have hmore : 0 < more.length := List.length_pos_iff.mpr h
  cases left with
  | none => exact ⟨fun _ => lasts_none _, fun _ => lasts_none _⟩
  | some n =>
      rw [Option.map_some, lasts_some_iff, lasts_some_iff, List.length_append]
      omega

/-- From `before` to `after` a channel took of the sends as many as it takes. -/
structure Delivered (record : σ → List Bytes) (left : σ → Option Nat) (before : σ)
    (sends : List Bytes) (after : σ) : Prop where
  record_eq : record after = record before ++ taken (left before) sends
  left_eq : left after = (left before).map (· - sends.length)

namespace Delivered

theorem refl (state : σ) : Delivered record left state [] state where
  record_eq := by cases h : left state <;> simp [taken]
  left_eq := by cases h : left state <;> rfl

theorem trans {before between after : σ} {sends more : List Bytes}
    (h : Delivered record left before sends between)
    (hmore : Delivered record left between more after) :
    Delivered record left before (sends ++ more) after where
  record_eq := by
    rw [hmore.record_eq, h.record_eq, h.left_eq, List.append_assoc]
    cases left before with
    | none => rfl
    | some n => simp only [taken, Option.map_some, List.take_append]
  left_eq := by
    rw [hmore.left_eq, h.left_eq, List.length_append]
    cases left before with
    | none => rfl
    | some n => simp only [Option.map_some, Nat.sub_sub]

/-- Where no send is taken any more, no send is made as well as any. -/
theorem ended {state : σ} (h : left state = some 0) (sends : List Bytes) :
    Delivered record left state sends state where
  record_eq := by simp [h, taken]
  left_eq := by simp [h]

end Delivered

/-! ## Limited channels -/

/-- A channel with a record of what it took.  It takes as many more sends as `left` says, or any
number, and refuses every one after them. -/
structure Limited (channel : Channel σ) (record : σ → List Bytes) (left : σ → Option Nat) :
    Prop where
  /-- A send is recorded if one is left, and then one less is left. -/
  delivered : ∀ (state : σ) (octets : Bytes),
    Delivered record left state [octets] (channel.send state octets).1
  succeeds : ∀ {state : σ}, left state ≠ some 0 → ∀ octets, (channel.send state octets).2 = .ok ()
  refuses : ∀ {state : σ}, left state = some 0 → ∀ octets,
    ∃ fault, (channel.send state octets).2 = .error fault

namespace Limited

/-- A refusal is a fault, after which no send is taken either. -/
theorem send_of_ended (h : channel.Limited record left) {state : σ} (hleft : left state = some 0)
    (octets : Bytes) :
    ∃ after fault, channel.send state octets = (after, .error fault) ∧
      Delivered record left state [octets] after ∧ left after = some 0 := by
  obtain ⟨fault, hfault⟩ := h.refuses hleft octets
  have hdelivered := h.delivered state octets
  refine ⟨(channel.send state octets).1, fault, Prod.ext rfl hfault, hdelivered, ?_⟩
  rw [hdelivered.left_eq, hleft]
  rfl

theorem send_of_not_ended (h : channel.Limited record left) {state : σ}
    (hleft : left state ≠ some 0) (octets : Bytes) :
    ∃ after, channel.send state octets = (after, .ok ()) ∧
      Delivered record left state [octets] after :=
  ⟨_, Prod.ext rfl (h.succeeds hleft octets), h.delivered state octets⟩

/-- Of sends in a row a limited channel takes as many as it takes, and they succeed just if that is
all of them. -/
theorem delivered_sendAll (h : channel.Limited record left) (state : σ) (sends : List Bytes) :
    Delivered record left state sends (channel.sendAll state sends).1 ∧
      ((channel.sendAll state sends).2 = .ok () ↔ Lasts (left state) sends) := by
  induction sends generalizing state with
  | nil => exact ⟨.refl state, fun _ => lasts_nil _, fun _ => rfl⟩
  | cons octets sends ih =>
      rw [sendAll]
      by_cases hleft : left state = some 0
      · obtain ⟨after, fault, hsend, hdelivered, hended⟩ := h.send_of_ended hleft octets
        rw [hsend]
        refine ⟨hdelivered.trans (.ended hended sends), nofun, fun hlasts => ?_⟩
        exact absurd (hlasts 0 hleft) (Nat.not_succ_le_zero _)
      · obtain ⟨after, hsend, hdelivered⟩ := h.send_of_not_ended hleft octets
        obtain ⟨hrest, hiff⟩ := ih after
        rw [hsend]
        refine ⟨hdelivered.trans hrest, hiff.trans ?_⟩
        rw [hdelivered.left_eq]
        cases hstate : left state with
        | none => exact ⟨fun _ => lasts_none _, fun _ => lasts_none _⟩
        | some n =>
            have hn : n ≠ 0 := fun hzero => hleft (hzero ▸ hstate)
            simp only [Option.map_some, lasts_some_iff, List.length_cons, List.length_nil]
            omega

end Limited

end Cellbook.Channel

namespace Cellbook.Recorder

/-- The record of sends is limited by what remains until its reader is gone. -/
theorem limited_channel : Recorder.channel.Limited Recorder.sends Recorder.remaining where
  delivered := by
    rintro ⟨sends, _ | _ | n⟩ octets
    · exact ⟨rfl, rfl⟩
    · exact ⟨(List.append_nil sends).symm, rfl⟩
    · have htaken : Channel.taken (some (n + 1)) [octets] = [octets] :=
        List.take_of_length_le (Nat.le_add_left 1 n)
      exact ⟨congrArg (sends ++ ·) htaken.symm, rfl⟩
  succeeds := by
    rintro ⟨sends, _ | _ | n⟩ hleft octets
    · rfl
    · exact absurd rfl hleft
    · rfl
  refuses := by
    rintro ⟨sends, _ | _ | n⟩ hleft octets
    · cases hleft
    · exact ⟨disconnected, rfl⟩
    · cases hleft

end Cellbook.Recorder
