import Cellbook.Proofs.Channel.Writer

/-!
# Channels with limited room

A writer with room for some number of octets takes what fits, in as many writes as it likes, and
then no octet more (`Writer.Confined`).  The send that meets the end of the room is stored in part,
which is what tells such a channel from one that ends between two sends.

What octets come to is `Filled`: of all of them as many as there is room for, from the front.  The
relation does not tell where one write or send ends and another begins (`Filled.trans`); so it is
followed through the writes of a send (`Writer.Confined.writeAll`) and through the sends of a list
(`Channel.Confined.filled_sendAll`) alike.
-/

namespace Cellbook

variable {σ : Type} {written : σ → Bytes} {room : σ → Nat}

/-! ## Room -/

/-- From `before` to `after` of the octets as many were written as there was room for. -/
structure Filled (written : σ → Bytes) (room : σ → Nat) (before : σ) (octets : Bytes) (after : σ) :
    Prop where
  written_eq : written after = written before ++ octets.take (room before)
  room_eq : room after = room before - octets.length

namespace Filled

theorem trans {before between after : σ} {octets more : Bytes}
    (h : Filled written room before octets between)
    (hmore : Filled written room between more after) :
    Filled written room before (octets ++ more) after where
  written_eq := by
    rw [hmore.written_eq, h.written_eq, h.room_eq, List.append_assoc, List.take_append]
  room_eq := by rw [hmore.room_eq, h.room_eq, List.length_append, Nat.sub_sub]

theorem refl (state : σ) : Filled written room state [] state where
  written_eq := by rw [List.take_nil, List.append_nil]
  room_eq := rfl

/-- Where there is no room, no octet is written as well as any. -/
theorem ended {before after : σ} {octets : Bytes} (h : Filled written room before octets after)
    (hroom : room before = 0) (more : Bytes) : Filled written room before more after where
  written_eq := by rw [h.written_eq, hroom, List.take_zero, List.take_zero]
  room_eq := by rw [h.room_eq, hroom, Nat.zero_sub, Nat.zero_sub]

end Filled

/-! ## Writers -/

/-- A writer that takes at least one octet of whatever it is handed while there is room, never more
than there is room for, and none when there is no room. -/
structure Writer.Confined (writer : Writer σ) (written : σ → Bytes) (room : σ → Nat) : Prop where
  write : ∀ {state : σ} {octets : Bytes}, octets ≠ [] → 0 < room state →
    ∃ after taken, writer.write state octets = (after, .ok (taken + 1)) ∧
      taken < octets.length ∧ taken < room state ∧
      Filled written room state (octets.take (taken + 1)) after
  /-- No octet is taken, or a fault answered. -/
  full : ∀ {state : σ} {octets : Bytes}, octets ≠ [] → room state = 0 →
    ∃ after outcome, writer.write state octets = (after, outcome) ∧
      (∀ taken, outcome ≠ .ok (taken + 1)) ∧ Filled written room state [] after
  flush : ∀ state : σ, ∃ after, writer.flush state = (after, .ok ()) ∧
    Filled written room state [] after

/-- A channel that takes of its sends what there is room for, and at which a send succeeds just if
there is room for all of it. -/
structure Channel.Confined (channel : Channel σ) (written : σ → Bytes) (room : σ → Nat) :
    Prop where
  filled : ∀ (state : σ) (octets : Bytes),
    Filled written room state octets (channel.send state octets).1
  succeeds_iff : ∀ (state : σ) (octets : Bytes),
    (channel.send state octets).2 = .ok () ↔ octets.length ≤ room state

namespace Writer.Confined

variable {writer : Writer σ} {state next : σ} {octets : Bytes}

/-- What takes octets had room for them. -/
theorem taken_of_write (h : writer.Confined written room) (hoctets : octets ≠ []) {taken : Nat}
    (hwrite : writer.write state octets = (next, .ok (taken + 1))) :
    taken < octets.length ∧ taken < room state ∧
      Filled written room state (octets.take (taken + 1)) next := by
  rcases Nat.eq_zero_or_pos (room state) with hfull | hroom
  · obtain ⟨after, outcome, hrefused, hnone, -⟩ := h.full hoctets hfull
    cases hwrite.symm.trans hrefused
    exact absurd rfl (hnone taken)
  · obtain ⟨after, more, htaken, hall⟩ := h.write hoctets hroom
    cases hwrite.symm.trans htaken
    exact hall

/-- What takes no octet has no room for any, and stays as it is. -/
theorem full_of_write (h : writer.Confined written room) (hoctets : octets ≠ [])
    {outcome : Except IoFault Nat} (hwrite : writer.write state octets = (next, outcome))
    (hnone : ∀ taken, outcome ≠ .ok (taken + 1)) :
    room state < octets.length ∧ Filled written room state octets next := by
  rcases Nat.eq_zero_or_pos (room state) with hfull | hroom
  · obtain ⟨after, outcome', hrefused, -, hfilled⟩ := h.full hoctets hfull
    cases hwrite.symm.trans hrefused
    exact ⟨hfull ▸ List.length_pos_iff.mpr hoctets, hfilled.ended hfull octets⟩
  · obtain ⟨after, more, htaken, -⟩ := h.write hoctets hroom
    cases hwrite.symm.trans htaken
    exact absurd rfl (hnone more)

/-- In however many writes, what there is room for is taken, and that is all of it just if it
fits. -/
theorem writeAll (h : writer.Confined written room) (state : σ) (octets : Bytes) :
    Filled written room state octets (writer.writeAll state octets).1 ∧
      ((writer.writeAll state octets).2 = .ok () ↔ octets.length ≤ room state) := by
  fun_induction writer.writeAll state octets with
  | case1 state => exact ⟨.refl state, fun _ => Nat.zero_le _, fun _ => rfl⟩
  | case2 state first rest next hwrite =>
      obtain ⟨hover, hfilled⟩ := h.full_of_write (List.cons_ne_nil first rest) hwrite (by simp)
      exact ⟨hfilled, iff_of_false (by simp) (Nat.not_le_of_lt hover)⟩
  | case3 state first rest next taken hwrite ih =>
      obtain ⟨hlength, hroom, htaken⟩ := h.taken_of_write (List.cons_ne_nil first rest) hwrite
      obtain ⟨hrest, hiff⟩ := ih
      have hall : (first :: rest).take (taken + 1) ++ rest.drop taken = first :: rest :=
        List.take_append_drop (taken + 1) (first :: rest)
      refine ⟨hall ▸ htaken.trans hrest, hiff.trans ?_⟩
      rw [htaken.room_eq, List.length_take, List.length_drop, List.length_cons]
      rw [List.length_cons] at hlength
      omega
  | case4 state first rest next fault hwrite =>
      obtain ⟨hover, hfilled⟩ := h.full_of_write (List.cons_ne_nil first rest) hwrite (by simp)
      exact ⟨hfilled, iff_of_false (by simp) (Nat.not_le_of_lt hover)⟩

/-- The channel over a writer has the room that the writer has. -/
theorem channel (h : writer.Confined written room) : writer.channel.Confined written room := by
  have hsend (state : σ) (octets : Bytes) :
      Filled written room state octets (writer.channel.send state octets).1 ∧
        ((writer.channel.send state octets).2 = .ok () ↔ octets.length ≤ room state) := by
    obtain ⟨hfilled, hiff⟩ := h.writeAll state octets
    simp only [Writer.channel]
    rcases hall : writer.writeAll state octets with ⟨next, fault | ⟨⟩⟩
    all_goals rw [hall] at hfilled hiff
    · exact ⟨hfilled, hiff⟩
    · obtain ⟨after, hflush, hsame⟩ := h.flush next
      dsimp only
      rw [hflush]
      exact ⟨List.append_nil octets ▸ hfilled.trans hsame, hiff⟩
  exact ⟨fun state octets => (hsend state octets).1, fun state octets => (hsend state octets).2⟩

end Writer.Confined

/-- The writer that takes what there is room for has the room of its buffer. -/
theorem Writer.confined_bounded :
    Writer.bounded.Confined BoundedBuffer.contents BoundedBuffer.room where
  write {buffer octets} hoctets hroom := by
    have hlength : 0 < octets.length := List.length_pos_iff.mpr hoctets
    obtain ⟨taken, htaken⟩ : ∃ taken, min buffer.room octets.length = taken + 1 :=
      ⟨_, (Nat.succ_pred_eq_of_pos (by omega)).symm⟩
    refine ⟨_, taken, congrArg (Prod.mk _) (congrArg Except.ok htaken), by omega, by omega, ?_, ?_⟩
    · have htake : octets.take buffer.room = (octets.take (taken + 1)).take buffer.room := by
        rw [List.take_take, List.take_eq_take_iff]
        omega
      exact congrArg (buffer.contents ++ ·) htake
    · rw [List.length_take]
      dsimp only
      omega
  full {buffer octets} _ hfull := by
    refine ⟨_, _, rfl, fun taken htaken => ?_, ?_, ?_⟩
    · have hzero : min buffer.room octets.length = taken + 1 := Except.ok.inj htaken
      omega
    · rw [hfull, List.take_zero, List.take_zero]
    · rw [hfull, Nat.zero_sub, Nat.zero_sub]
  flush buffer := ⟨buffer, rfl, .refl buffer⟩

namespace Channel.Confined

variable {channel : Channel σ}

/-- Of sends in a row a channel takes the octets that there is room for, and the sends succeed just
if there is room for all of them. -/
theorem filled_sendAll (h : channel.Confined written room) (state : σ) (sends : List Bytes) :
    Filled written room state sends.flatten (channel.sendAll state sends).1 ∧
      ((channel.sendAll state sends).2 = .ok () ↔ sends.flatten.length ≤ room state) := by
  induction sends generalizing state with
  | nil => exact ⟨.refl state, fun _ => Nat.zero_le _, fun _ => rfl⟩
  | cons octets sends ih =>
      have hfilled := h.filled state octets
      have hiff := h.succeeds_iff state octets
      rw [sendAll, List.flatten_cons]
      rcases hsend : channel.send state octets with ⟨next, fault | ⟨⟩⟩
      all_goals rw [hsend] at hfilled hiff
      · -- What is left of the room is taken by the send that fails, so the rest finds none.
        have hover : room state < octets.length := Nat.lt_of_not_le fun hfits => by
          cases hiff.mpr hfits
        have hfull : room next = 0 := by
          rw [hfilled.room_eq]
          omega
        refine ⟨hfilled.trans ((Filled.refl next).ended hfull sends.flatten), iff_of_false ?_ ?_⟩
        · simp
        · rw [List.length_append]
          omega
      · have hfits : octets.length ≤ room state := hiff.mp rfl
        obtain ⟨hrest, hrestiff⟩ := ih next
        refine ⟨hfilled.trans hrest, hrestiff.trans ?_⟩
        rw [hfilled.room_eq, List.length_append]
        omega

end Channel.Confined

end Cellbook
