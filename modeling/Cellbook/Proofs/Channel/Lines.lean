import Cellbook.Proofs.Channel.Delivery
import Cellbook.Proofs.Text.Base64

/-!
# Base64 in lines

Octets go out in base64 a line at a time, and no line is longer than the buffer that all of them are
encoded into, so that what is sent of the buffer is the encoded form of the piece and nothing of the
one before it (`Channel.sendBase64_eq`).  A line of full length is a whole number of groups; so the
lines are the encoded form of all octets, cut into pieces of 76 characters (`Base64.lined_lines`),
and a channel gets all of them or those before one that it fails at (`Channel.sendBase64_lined`).
-/

namespace Cellbook

namespace Base64

/-! ## Groups and padding -/

/-- Three octets, or what is left of them at the end, are four characters. -/
theorem length_encode (octets : Bytes) :
    (encode octets).length = 4 * ((octets.length + 2) / 3) := by
  fun_induction encode octets with
  | case1 => rfl
  | case2 x => simp
  | case3 x y => simp
  | case4 x y z rest ih =>
      simp only [List.length_cons, ih]
      omega

/-- Whole groups are not padded. -/
theorem padding_notMem_encode {octets : Bytes} (h : 3 ∣ octets.length) :
    padding ∉ encode octets := by
  fun_induction encode octets with
  | case1 => exact List.not_mem_nil
  | case2 x => exact absurd h (by simp)
  | case3 x y => exact absurd h (by simp)
  | case4 x y z rest ih =>
      have hx := x.toNat_lt
      have hy := y.toNat_lt
      have hz := z.toNat_lt
      have hrest : 3 ∣ rest.length := by
        simp only [List.length_cons] at h
        omega
      simp only [List.mem_cons, not_or]
      exact ⟨(digit_ne_padding (by omega)).symm, (digit_ne_padding (by omega)).symm,
        (digit_ne_padding (by omega)).symm, (digit_ne_padding (by omega)).symm, ih hrest⟩

/-- The characters of encoded forms, the one that pads at the end. -/
def alphabet : Bytes :=
  Text.encode "ABCDEFGHIJKLMNOPQRSTUVWXYZabcdefghijklmnopqrstuvwxyz0123456789+/="

theorem mem_alphabet_of_mem_encode {octets : Bytes} : ∀ b ∈ encode octets, b ∈ alphabet :=
  forall_mem_encode (by decide) (by decide) octets

/-! ## Lines -/

/-- Octets cut into lines of their encoded form. -/
structure Lined (octets : Bytes) (lines : List Bytes) : Prop where
  /-- The lines are, put together, the encoded form of all octets. -/
  flatten_eq : lines.flatten = encode octets
  decode?_eq : decode? lines.flatten = some octets
  /-- There are as many as 57 goes into the number of octets, rounded up. -/
  length_eq : lines.length = (octets.length + 56) / 57
  full : ∀ line ∈ lines.dropLast, line.length = 76
  last : ∀ line ∈ lines.getLast?, 4 ≤ line.length ∧ line.length ≤ 76
  padding_notMem : ∀ line ∈ lines.dropLast, padding ∉ line
  mem_alphabet : ∀ line ∈ lines, ∀ b ∈ line, b ∈ alphabet

theorem length_le_of_mem_cut {octets piece : Bytes} (h : piece ∈ cut lineOctets octets) :
    piece.length ≤ 57 :=
  length_le_of_mem_cutUpTo h

/-- A line that another one follows is the encoded form of a piece of full size. -/
theorem exists_of_mem_dropLast_lines {octets line : Bytes} (h : line ∈ (lines octets).dropLast) :
    ∃ piece : Bytes, piece.length = 57 ∧ encode piece = line := by
  rw [lines, ← List.map_dropLast] at h
  obtain ⟨piece, hpiece, rfl⟩ := List.mem_map.mp h
  exact ⟨piece, length_eq_of_mem_dropLast_cutUpTo hpiece, rfl⟩

theorem lined_lines (octets : Bytes) : Lined octets (lines octets) where
  flatten_eq := flatten_lines octets
  decode?_eq := decode?_eq_some_iff.mpr (flatten_lines octets)
  length_eq := (List.length_map ..).trans (length_cutUpTo (by decide) (Nat.le_refl _))
  full line h := by
    obtain ⟨piece, hpiece, rfl⟩ := exists_of_mem_dropLast_lines h
    rw [length_encode, hpiece]
  last line h := by
    obtain ⟨piece, hpiece, rfl⟩ := List.mem_map.mp (List.mem_of_getLast? h)
    have hlong := length_le_of_mem_cut hpiece
    have hshort := List.length_pos_iff.mpr (cutUpTo_ne_nil (by decide) hpiece)
    rw [length_encode]
    omega
  padding_notMem line h := by
    obtain ⟨piece, hpiece, rfl⟩ := exists_of_mem_dropLast_lines h
    exact padding_notMem_encode (hpiece ▸ by decide)
  mem_alphabet line h := by
    obtain ⟨piece, -, rfl⟩ := List.mem_map.mp h
    exact mem_alphabet_of_mem_encode

/-- The encoded form of a piece fits a line, and what a line held before it is behind it. -/
theorem exists_encodeInto? {piece line : Bytes} (hpiece : piece.length ≤ 57)
    (hline : line.length = 76) :
    ∃ filled, encodeInto? piece line = some (filled, (encode piece).length) ∧
      filled.length = 76 ∧ filled.take (encode piece).length = encode piece := by
  have hfits : (encode piece).length ≤ line.length := by
    rw [length_encode, hline]
    omega
  refine ⟨_, if_pos hfits, ?_, List.take_left ..⟩
  rw [List.length_append, List.length_drop]
  omega

end Base64

namespace Channel

variable {σ : Type} {channel : Channel σ}

/-- Pieces that fit a line are sent as their encoded forms. -/
theorem sendEncoded_eq (state : σ) {line : Bytes} (hline : line.length = 76) {pieces : List Bytes}
    (hpieces : ∀ piece ∈ pieces, piece.length ≤ 57) :
    channel.sendEncoded state line pieces = channel.sendAll state (pieces.map Base64.encode) := by
  induction pieces generalizing state line with
  | nil => rfl
  | cons piece pieces ih =>
      rw [List.forall_mem_cons] at hpieces
      obtain ⟨filled, hfilled, hlength, htake⟩ := Base64.exists_encodeInto? hpieces.1 hline
      rw [sendEncoded, hfilled, List.map_cons, sendAll]
      simp only [htake]
      split
      · exact ih _ hlength hpieces.2
      · rfl

/-- What is sent in base64 are the lines. -/
theorem sendBase64_eq (channel : Channel σ) (state : σ) (octets : Bytes) :
    channel.sendBase64 state octets = channel.sendAll state (Base64.lines octets) :=
  sendEncoded_eq state List.length_replicate fun _ => Base64.length_le_of_mem_cut

/-- Octets go out in base64 as lines that are, put together, their encoded form, and each piece fits
the line that it is encoded into, whatever the line held.  On any channel all lines are taken and the
sending succeeds, or a line is refused and the sending fails with that fault, after the lines before
it and no other. -/
theorem sendBase64_lined (octets : Bytes) :
    Base64.Lined octets (Base64.lines octets) ∧
      (∀ piece ∈ Base64.cut 57 octets, ∀ line : Bytes, line.length = 76 →
        ∃ filled, Base64.encodeInto? piece line = some (filled, (Base64.encode piece).length) ∧
          filled.length = 76 ∧
          filled.take (Base64.encode piece).length = Base64.encode piece) ∧
      ∀ {σ : Type} (channel : Channel σ) (state after : σ),
        (channel.sendBase64 state octets = (after, .ok ()) ↔
          channel.Takes state (Base64.lines octets) after) ∧
        ∀ fault, channel.sendBase64 state octets = (after, .error fault) ↔
          ∃ taken refused rest between, Base64.lines octets = taken ++ refused :: rest ∧
            channel.Takes state taken between ∧
            channel.send between refused = (after, .error fault) := by
  refine ⟨Base64.lined_lines octets, fun piece hpiece line hline => ?_, fun channel state after => ?_⟩
  · exact Base64.exists_encodeInto? (Base64.length_le_of_mem_cut hpiece) hline
  · rw [sendBase64_eq]
    exact ⟨sendAll_eq_ok_iff, fun fault => sendAll_eq_error_iff⟩

/-- Fifty-eight octets are a line and four characters more; a reader that is gone after the line has
the line alone. -/
theorem sendBase64_lined_disconnected :
    let octets : Bytes := List.replicate 58 0xab
    let line : Bytes := (List.replicate 19 (Text.encode "q6ur")).flatten
    Base64.lines octets = [line, Text.encode "qw=="] ∧
      Recorder.channel.sendBase64 (.empty (some 1)) octets =
        (⟨[line], some 0⟩, .error Recorder.disconnected) := by
  intro octets line
  have hlines : Base64.lines octets = [line, Text.encode "qw=="] := by decide +kernel
  have hline : Recorder.channel.send (.empty (some 1)) line = (⟨[line], some 0⟩, .ok ()) := rfl
  refine ⟨hlines, ((sendBase64_lined octets).2.2 Recorder.channel _ _).2 _ |>.mpr ?_⟩
  exact ⟨[line], Text.encode "qw==", [], ⟨[line], some 0⟩, hlines, .cons hline (.nil _), rfl⟩

end Channel

end Cellbook
