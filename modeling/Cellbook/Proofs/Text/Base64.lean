import Cellbook.Proofs.Text.Pieces

/-!
# Base64 read back

`decode?` is the strict reader of base64: it takes groups of four characters of the alphabet, and
padding only at the end of the last group, where the bits that no octet takes up must be zero.  It
accepts exactly the encoded forms (`decode?_eq_some_iff`).

A line takes a whole number of groups, so the lines of a sequence of octets are, put together, its
encoded form (`flatten_lines`).
-/

namespace Cellbook.Base64

/-! ## Reading -/

/-- The six bits that a character of the alphabet stands for. -/
def value? (b : UInt8) : Option Nat :=
  let n := b.toNat
  if 65 ≤ n ∧ n ≤ 90 then some (n - 65)
  else if 97 ≤ n ∧ n ≤ 122 then some (n - 97 + 26)
  else if 48 ≤ n ∧ n ≤ 57 then some (n - 48 + 52)
  else if n = 43 then some 62
  else if n = 47 then some 63
  else none

/-- The octet of two characters; the four bits left over must be zero. -/
def single? (a b : UInt8) : Option Bytes := do
  let p ← value? a
  let q ← value? b
  if q % 16 = 0 then pure [(p * 4 + q / 16).toUInt8] else none

/-- The two octets of three characters; the two bits left over must be zero. -/
def double? (a b c : UInt8) : Option Bytes := do
  let p ← value? a
  let q ← value? b
  let r ← value? c
  if r % 4 = 0 then pure [(p * 4 + q / 16).toUInt8, (q % 16 * 16 + r / 4).toUInt8] else none

/-- The three octets of four characters. -/
def triple? (a b c d : UInt8) : Option Bytes := do
  let p ← value? a
  let q ← value? b
  let r ← value? c
  let s ← value? d
  pure [(p * 4 + q / 16).toUInt8, (q % 16 * 16 + r / 4).toUInt8, (r % 4 * 64 + s).toUInt8]

/-- The octets of the last group, fewer than three if it is padded. -/
def lastGroup? (a b c d : UInt8) : Option Bytes :=
  if d = padding then if c = padding then single? a b else double? a b c
  else triple? a b c d

/-- The octets that an encoded form stands for, and nothing for any other text. -/
def decode? : Bytes → Option Bytes
  | [] => some []
  | a :: b :: c :: d :: rest =>
    (if rest.isEmpty then lastGroup? a b c d else triple? a b c d).bind fun octets =>
      (decode? rest).map (octets ++ ·)
  | _ => none

/-! ## The alphabet -/

theorem value?_digit : ∀ n < 64, value? (digit n) = some n := by decide

theorem toNat_digit : ∀ n < 64, (digit n).toNat =
    if n < 26 then n + 65 else if n < 52 then n + 71 else if n < 62 then n - 4
    else if n = 62 then 43 else 47 := by
  decide

theorem value?_padding : value? padding = none := by decide

theorem digit_ne_padding {n : Nat} (h : n < 64) : digit n ≠ padding := by
  intro heq
  have hvalue := value?_digit n h
  rw [heq, value?_padding] at hvalue
  cases hvalue

/-- Each character of the alphabet stands for the bits that it is written for. -/
theorem value?_eq_some_iff {b : UInt8} {n : Nat} : value? b = some n ↔ n < 64 ∧ b = digit n := by
  constructor
  · intro h
    simp only [value?] at h
    have hn : n < 64 := by grind
    refine ⟨hn, UInt8.toNat_inj.mp ?_⟩
    rw [toNat_digit n hn]
    grind
  · rintro ⟨hn, rfl⟩
    exact value?_digit n hn

/-- What holds of every character of the alphabet and of the padding holds throughout an encoded
form. -/
theorem forall_mem_encode {p : UInt8 → Prop} (hdigit : ∀ n < 64, p (digit n)) (hpadding : p padding)
    (octets : Bytes) : ∀ b ∈ encode octets, p b := by
  fun_induction encode octets with
  | case1 => exact List.forall_mem_nil _
  | case2 x =>
      have hx := x.toNat_lt
      simp only [List.forall_mem_cons]
      exact ⟨hdigit _ (by omega), hdigit _ (by omega), hpadding, hpadding, List.forall_mem_nil _⟩
  | case3 x y =>
      have hx := x.toNat_lt
      have hy := y.toNat_lt
      simp only [List.forall_mem_cons]
      exact ⟨hdigit _ (by omega), hdigit _ (by omega), hdigit _ (by omega), hpadding,
        List.forall_mem_nil _⟩
  | case4 x y z rest ih =>
      have hx := x.toNat_lt
      have hy := y.toNat_lt
      have hz := z.toNat_lt
      simp only [List.forall_mem_cons]
      exact ⟨hdigit _ (by omega), hdigit _ (by omega), hdigit _ (by omega), hdigit _ (by omega), ih⟩

theorem isAscii_encode (octets : Bytes) : ∀ b ∈ encode octets, b < 0x80 :=
  forall_mem_encode (by decide) (by decide) octets

/-! ## Groups

A group is read as what it is written for, and for nothing else: four times six bits are three times
eight. -/

theorem toNat_toUInt8 {n : Nat} (h : n < 256) : n.toUInt8.toNat = n := by
  rw [Nat.toUInt8_eq, UInt8.toNat_ofNat', Nat.mod_eq_of_lt h]

theorem toUInt8_eq {n : Nat} {b : UInt8} (h : n = b.toNat) : n.toUInt8 = b :=
  h ▸ UInt8.ofNat_toNat

theorem single?_eq_some_iff {a b : UInt8} {octets : Bytes} :
    single? a b = some octets ↔ ∃ x, octets = [x] ∧ [a, b, padding, padding] = encode octets := by
  constructor
  · intro h
    simp only [single?, Option.bind_eq_bind, Option.bind_eq_some_iff, value?_eq_some_iff,
      Option.ite_none_right_eq_some, Option.pure_def, Option.some.injEq] at h
    obtain ⟨p, ⟨hp, rfl⟩, q, ⟨hq, rfl⟩, hzero, rfl⟩ := h
    refine ⟨_, rfl, ?_⟩
    simp only [encode]
    rw [toNat_toUInt8 (by omega)]
    congr <;> omega
  · rintro ⟨x, rfl, h⟩
    have hx := x.toNat_lt
    obtain ⟨rfl, rfl⟩ : _ ∧ _ := by simpa [encode] using h
    simp only [single?, Option.bind_eq_bind]
    rw [value?_digit _ (by omega), value?_digit _ (by omega)]
    simp only [Option.bind_some]
    rw [if_pos (by omega), toUInt8_eq (b := x) (by omega)]
    rfl

theorem double?_eq_some_iff {a b c : UInt8} {octets : Bytes} :
    double? a b c = some octets ↔ ∃ x y, octets = [x, y] ∧ [a, b, c, padding] = encode octets := by
  constructor
  · intro h
    simp only [double?, Option.bind_eq_bind, Option.bind_eq_some_iff, value?_eq_some_iff,
      Option.ite_none_right_eq_some, Option.pure_def, Option.some.injEq] at h
    obtain ⟨p, ⟨hp, rfl⟩, q, ⟨hq, rfl⟩, r, ⟨hr, rfl⟩, hzero, rfl⟩ := h
    refine ⟨_, _, rfl, ?_⟩
    simp only [encode]
    rw [toNat_toUInt8 (by omega), toNat_toUInt8 (by omega)]
    congr <;> omega
  · rintro ⟨x, y, rfl, h⟩
    have hx := x.toNat_lt
    have hy := y.toNat_lt
    obtain ⟨rfl, rfl, rfl⟩ : _ ∧ _ ∧ _ := by simpa [encode] using h
    simp only [double?, Option.bind_eq_bind]
    rw [value?_digit _ (by omega), value?_digit _ (by omega), value?_digit _ (by omega)]
    simp only [Option.bind_some]
    rw [if_pos (by omega), toUInt8_eq (b := x) (by omega), toUInt8_eq (b := y) (by omega)]
    rfl

theorem triple?_eq_some_iff {a b c d : UInt8} {octets : Bytes} :
    triple? a b c d = some octets ↔
      ∃ x y z, octets = [x, y, z] ∧ [a, b, c, d] = encode octets := by
  constructor
  · intro h
    simp only [triple?, Option.bind_eq_bind, Option.bind_eq_some_iff, value?_eq_some_iff,
      Option.pure_def, Option.some.injEq] at h
    obtain ⟨p, ⟨hp, rfl⟩, q, ⟨hq, rfl⟩, r, ⟨hr, rfl⟩, s, ⟨hs, rfl⟩, rfl⟩ := h
    refine ⟨_, _, _, rfl, ?_⟩
    simp only [encode]
    rw [toNat_toUInt8 (by omega), toNat_toUInt8 (by omega), toNat_toUInt8 (by omega)]
    congr <;> omega
  · rintro ⟨x, y, z, rfl, h⟩
    have hx := x.toNat_lt
    have hy := y.toNat_lt
    have hz := z.toNat_lt
    obtain ⟨rfl, rfl, rfl, rfl⟩ : _ ∧ _ ∧ _ ∧ _ := by simpa [encode] using h
    simp only [triple?, Option.bind_eq_bind]
    rw [value?_digit _ (by omega), value?_digit _ (by omega), value?_digit _ (by omega),
      value?_digit _ (by omega)]
    simp only [Option.bind_some]
    rw [toUInt8_eq (b := x) (by omega), toUInt8_eq (b := y) (by omega),
      toUInt8_eq (b := z) (by omega)]
    rfl

theorem encode_eq_nil_iff {octets : Bytes} : encode octets = [] ↔ octets = [] := by
  fun_cases encode octets <;> simp

/-- The last group is read as the octets whose encoded form it is. -/
theorem lastGroup?_eq_some_iff {a b c d : UInt8} {octets : Bytes} :
    lastGroup? a b c d = some octets ↔ [a, b, c, d] = encode octets := by
  constructor
  · intro h
    rw [lastGroup?] at h
    split at h
    · next hd =>
        subst hd
        split at h
        · next hc =>
            subst hc
            obtain ⟨x, -, hencode⟩ := single?_eq_some_iff.mp h
            exact hencode
        · obtain ⟨x, y, -, hencode⟩ := double?_eq_some_iff.mp h
          exact hencode
    · obtain ⟨x, y, z, -, hencode⟩ := triple?_eq_some_iff.mp h
      exact hencode
  · intro h
    match octets, h with
    | [x], h =>
        obtain ⟨-, -, rfl, rfl⟩ : _ ∧ _ ∧ _ ∧ _ := by simpa [encode] using h
        exact single?_eq_some_iff.mpr ⟨x, rfl, h⟩
    | [x, y], h =>
        obtain ⟨-, -, hc, rfl⟩ : _ ∧ _ ∧ _ ∧ _ := by simpa [encode] using h
        have hne : c ≠ padding := hc ▸ digit_ne_padding (by omega)
        rw [lastGroup?, if_pos rfl, if_neg hne]
        exact double?_eq_some_iff.mpr ⟨x, y, rfl, h⟩
    | x :: y :: z :: rest, h =>
        obtain ⟨-, -, -, hd, hrest⟩ : _ ∧ _ ∧ _ ∧ _ ∧ _ := by simpa [encode] using h
        obtain rfl := encode_eq_nil_iff.mp hrest
        have hne : d ≠ padding := hd ▸ digit_ne_padding (by omega)
        rw [lastGroup?, if_neg hne]
        exact triple?_eq_some_iff.mpr ⟨x, y, z, rfl, h⟩

/-! ## Encoded forms -/

theorem decode?_encode (octets : Bytes) : decode? (encode octets) = some octets := by
  fun_induction encode octets with
  | case1 => rfl
  | case2 x =>
      have hlast := lastGroup?_eq_some_iff.mpr (encode.eq_2 x).symm
      simp [decode?, hlast]
  | case3 x y =>
      have hlast := lastGroup?_eq_some_iff.mpr (encode.eq_3 x y).symm
      simp [decode?, hlast]
  | case4 x y z rest ih =>
      have hlast := lastGroup?_eq_some_iff.mpr (encode.eq_4 x y z []).symm
      have htriple := triple?_eq_some_iff.mpr ⟨x, y, z, rfl, (encode.eq_4 x y z []).symm⟩
      rw [decode?, ih, hlast, htriple, ite_self]
      rfl

/-- The strict reader accepts the encoded forms and nothing else. -/
theorem decode?_eq_some_iff {text octets : Bytes} :
    decode? text = some octets ↔ text = encode octets := by
  constructor
  · intro h
    -- The induction is on the groups ahead; where there are none, the group may be padded.
    fun_induction decode? text generalizing octets with
    | case1 =>
        cases h
        rfl
    | case2 a b c d rest ih =>
        obtain ⟨first, hfirst, htail⟩ := Option.bind_eq_some_iff.mp h
        obtain ⟨more, hmore, rfl⟩ := Option.map_eq_some_iff.mp htail
        obtain rfl := ih hmore
        split at hfirst
        · next hempty =>
            have hnil := List.isEmpty_iff.mp hempty
            rw [encode_eq_nil_iff.mp hnil, List.append_nil]
            exact lastGroup?_eq_some_iff.mp hfirst
        · obtain ⟨x, y, z, rfl, hencode⟩ := triple?_eq_some_iff.mp hfirst
          exact congrArg (· ++ encode more) hencode
    | case3 => cases h
  · rintro rfl
    exact decode?_encode octets

example : decode? (Text.encode "AQ==") = some [1] := by decide

/-! ## Lines -/

/-- Whole groups are encoded by themselves. -/
theorem encode_append {octets : Bytes} (h : 3 ∣ octets.length) (more : Bytes) :
    encode (octets ++ more) = encode octets ++ encode more := by
  fun_induction encode octets with
  | case1 => rfl
  | case2 x => exact absurd h (by simp)
  | case3 x y => exact absurd h (by simp)
  | case4 x y z rest ih =>
      have hrest : 3 ∣ rest.length := by
        simp only [List.length_cons] at h
        omega
      simp only [List.cons_append, encode, ih hrest]

/-- Pieces of whole groups are, encoded one by one, the encoded form of the whole. -/
theorem flatten_map_encode_cutUpTo {size pieces : Nat} {octets : Bytes} (hsize : 3 ∣ size)
    (h : octets.length ≤ pieces * size) :
    ((cutUpTo size pieces octets).map encode).flatten = encode octets := by
  fun_induction cutUpTo size pieces octets with
  | case1 octets =>
      have hnil : octets = [] := List.length_eq_zero_iff.mp (by omega)
      rw [hnil]
      rfl
  | case2 => rfl
  | case3 pieces octets hoctets ih =>
      have hmore : (octets.drop size).length ≤ pieces * size := by
        rw [List.length_drop, Nat.sub_le_iff_le_add, ← Nat.succ_mul]
        exact h
      rw [List.map_cons, List.flatten_cons, ih hmore]
      by_cases hshort : octets.length ≤ size
      · rw [List.take_of_length_le hshort, List.drop_of_length_le hshort]
        exact List.append_nil _
      · have htake : 3 ∣ (octets.take size).length := by
          rwa [List.length_take, Nat.min_eq_left (Nat.le_of_not_le hshort)]
        rw [← encode_append htake, List.take_append_drop]

/-- The lines of a sequence of octets are, put together, its encoded form. -/
theorem flatten_lines (octets : Bytes) : (lines octets).flatten = encode octets :=
  flatten_map_encode_cutUpTo (by decide) (Nat.le_mul_of_pos_right _ (by decide))

end Cellbook.Base64
