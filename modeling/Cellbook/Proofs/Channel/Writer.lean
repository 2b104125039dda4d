import Cellbook.Channel.Writer
import Cellbook.Proofs.Channel.Delivery

/-!
# Channels over writers

A writer that takes at least one octet of whatever it is handed is handed a send to its end, however
little it takes at a time, so that the channel over it is faithful (`Writer.Keeps.faithful`).  The
growing buffer and the buffer with limited room are what the channels over their writers are.
-/

namespace Cellbook.Writer

variable {σ : Type} {writer : Writer σ}

/-- A writer that in the states `good` takes at least one octet of whatever it is handed, and keeps
what it takes. -/
structure Keeps (writer : Writer σ) (good : σ → Prop) (written : σ → Bytes) : Prop where
  write : ∀ {state : σ} {octets : Bytes}, good state → octets ≠ [] →
    ∃ after taken, writer.write state octets = (after, .ok (taken + 1)) ∧ good after ∧
      written after = written state ++ octets.take (taken + 1)
  flush : ∀ {state : σ}, good state →
    ∃ after, writer.flush state = (after, .ok ()) ∧ good after ∧ written after = written state

namespace Keeps

variable {good : σ → Prop} {written : σ → Bytes} {state : σ}

/-- In however many writes, all octets are taken in order. -/
theorem writeAll (h : writer.Keeps good written) (hstate : good state) (octets : Bytes) :
    ∃ after, writer.writeAll state octets = (after, .ok ()) ∧ good after ∧
      written after = written state ++ octets := by
  fun_induction writer.writeAll state octets with
  | case1 state => exact ⟨state, rfl, hstate, (List.append_nil _).symm⟩
  | case2 state first rest next hwrite =>
      obtain ⟨after, taken, htaken, -⟩ := h.write hstate (List.cons_ne_nil first rest)
      cases hwrite.symm.trans htaken
  | case3 state first rest next taken hwrite ih =>
      obtain ⟨after, more, htaken, hafter, hwritten⟩ :=
        h.write hstate (List.cons_ne_nil first rest)
      cases hwrite.symm.trans htaken
      obtain ⟨last, hlast, hgood, hall⟩ := ih hafter
      refine ⟨last, hlast, hgood, ?_⟩
      rw [hall, hwritten, List.append_assoc, List.take_succ_cons, List.cons_append,
        List.take_append_drop]
  | case4 state first rest next fault hwrite =>
      obtain ⟨after, taken, htaken, -⟩ := h.write hstate (List.cons_ne_nil first rest)
      cases hwrite.symm.trans htaken

theorem send (h : writer.Keeps good written) (hstate : good state) (octets : Bytes) :
    ∃ after, writer.channel.send state octets = (after, .ok ()) ∧ good after ∧
      written after = written state ++ octets := by
  obtain ⟨between, hall, hbetween, hwritten⟩ := h.writeAll hstate octets
  obtain ⟨after, hflush, hafter, hsame⟩ := h.flush hbetween
  refine ⟨after, ?_, hafter, hsame.trans hwritten⟩
  simp only [channel, hall]
  exact hflush

/-- The channel over a writer that keeps what it takes is faithful. -/
theorem faithful (h : writer.Keeps good written) : writer.channel.Faithful good written where
  succeeds hstate octets := by
    obtain ⟨after, hsend, -⟩ := h.send hstate octets
    rw [hsend]
  stays hstate octets := by
    obtain ⟨after, hsend, hafter, -⟩ := h.send hstate octets
    rw [hsend]
    exact hafter
  appends hstate octets := by
    obtain ⟨after, hsend, -, hwritten⟩ := h.send hstate octets
    rw [hsend]
    exact hwritten

end Keeps

theorem keeps_growing : growing.Keeps (fun _ => True) id where
  write {state octets} _ hoctets := by
    cases octets with
    | nil => exact absurd rfl hoctets
    | cons first rest =>
        refine ⟨state ++ first :: rest, rest.length, rfl, trivial, ?_⟩
        exact congrArg (state ++ ·) (List.take_of_length_le (Nat.le_refl _)).symm
  flush {state} _ := ⟨state, rfl, trivial, rfl⟩

/-- The growing buffer is the channel over the writer that takes all there is. -/
theorem channel_growing : growing.channel = bufferChannel := by
  have hsend : growing.channel.send = bufferChannel.send := by
    funext contents octets
    obtain ⟨after, hsend, -, (hwritten : after = contents ++ octets)⟩ :=
      keeps_growing.send trivial octets
    rw [hsend]
    exact congrArg (·, Except.ok ()) hwritten
  exact congrArg Channel.mk hsend

/-- What there is no room for is refused after what there is room for is stored. -/
theorem writeAll_bounded (buffer : BoundedBuffer) (octets : Bytes) :
    bounded.writeAll buffer octets = buffer.send octets := by
  fun_induction bounded.writeAll buffer octets with
  | case1 buffer => simp [BoundedBuffer.send]
  | case2 buffer first rest next hwrite =>
      obtain ⟨rfl, hroom⟩ := Prod.mk.inj hwrite
      have hzero : min buffer.room (rest.length + 1) = 0 := Except.ok.inj hroom
      have hfull : ¬ rest.length + 1 ≤ buffer.room := by omega
      exact congrArg (Prod.mk _) (if_neg hfull).symm
  | case3 buffer first rest next taken hwrite ih =>
      obtain ⟨rfl, hroom⟩ := Prod.mk.inj hwrite
      have htaken : min buffer.room (rest.length + 1) = taken + 1 := Except.ok.inj hroom
      rw [ih]
      by_cases hfits : rest.length + 1 ≤ buffer.room
      · have hall : taken = rest.length := by omega
        simp [BoundedBuffer.send, hall, hfits]
      · have hnone : buffer.room - (rest.length + 1) = 0 := by omega
        have hsome : rest.length - taken ≠ 0 := by omega
        simp [BoundedBuffer.send, hnone, hsome, hfits]
  | case4 buffer first rest next fault hwrite => exact nomatch (Prod.mk.inj hwrite).2

/-- The buffer with limited room is the channel over the writer that takes what there is room for. -/
theorem channel_bounded : bounded.channel = BoundedBuffer.channel := by
  have hsend : bounded.channel.send = BoundedBuffer.channel.send := by
    funext buffer octets
    simp only [channel, BoundedBuffer.channel, writeAll_bounded]
    rcases buffer.send octets with ⟨after, fault | ⟨⟩⟩ <;> rfl
  exact congrArg Channel.mk hsend

end Cellbook.Writer
