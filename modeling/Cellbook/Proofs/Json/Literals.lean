import Cellbook.Proofs.Json.Reading

/-!
# Strings and numbers in any form

What the grammar has for a string is read as the text it spells, and refused where it spells none
(`reads_stringContent`); passed over, it is taken either way (`reads_skipString`).  What it has for
a number is read as its parts (`reads_numeral`).

A string is followed code point by code point.  Between two of them its reader is in the plain
state, except within a pair of surrogates, where the first half leaves the state `pair`.
-/

namespace Cellbook.Json

/-! ## Contents of strings -/

/-- Reads the rest of a string from a state on, with the octets already read, newest first. -/
def contentReader (state : StringState) (read : Bytes) : Reader String := fun cursor =>
  contentFrom state read cursor.place cursor.rest

section Contents

variable {state next : StringState} {b : UInt8} {octets read rest : Bytes}
  {result : Option (String × Bytes)}

theorem reads_content_next (h : state.step b = .next next octets)
    (hrest : Reads (contentReader next (octets.reverse ++ read)) rest result) :
    Reads (contentReader state read) (b :: rest) result := by
  intro place
  rw [contentReader, contentFrom, h]
  exact hrest (place.after b)

theorem reads_content_failed {cause : Cause} (h : state.step b = .failed cause)
    (read rest : Bytes) : Reads (contentReader state read) (b :: rest) none := by
  intro place
  rw [contentReader, contentFrom, h]
  rfl

theorem step_plain (h : IsPlain b) : StringState.plain.step b = .next .plain [b] := by
  obtain ⟨hquote, hslash, hcontrol⟩ := h
  simp only [StringState.step, beq_iff_eq, hquote, hslash, hcontrol, if_false]

/-- Octets that stand for themselves are read as they are. -/
theorem reads_content_plain (h : ∀ b ∈ octets, IsPlain b)
    (hrest : Reads (contentReader .plain (octets.reverse ++ read)) rest result) :
    Reads (contentReader .plain read) (octets ++ rest) result := by
  induction octets generalizing read with
  | nil => exact hrest
  | cons b octets ih =>
      have hothers : ∀ c ∈ octets, IsPlain c := fun c hc => h c (List.mem_cons_of_mem _ hc)
      refine reads_content_next (step_plain (h b List.mem_cons_self)) (ih hothers ?_)
      simpa using hrest

/-- An escape of one letter stands for its character. -/
theorem step_letter : ∀ e ∈ letterEscapes,
    StringState.escape.step e.1.toUInt8 = .next .plain (String.utf8EncodeChar e.2) := by decide

theorem hexValue?_of_isHexDigit {d : Nat} (h : IsHexDigit d b) : hexValue? b = some d := by
  have hlower : ∀ d < 16, hexValue? (hexDigit d).toUInt8 = some d := by decide
  have hupper : ∀ d < 16, hexValue? (hexDigit d).toUpper.toUInt8 = some d := by decide
  obtain ⟨hd, rfl | rfl⟩ := h
  · exact hlower d hd
  · exact hupper d hd

variable {lead : Option Nat} {m n p q : Nat} {b₁ b₂ b₃ b₄ : UInt8}

/-- A digit of a numbered escape that more digits follow. -/
theorem step_hexDigit {missing value d : Nat} (h : IsHexDigit d b) :
    (StringState.digits lead (missing + 2) (some value)).step b =
      .next (.digits lead (missing + 1) (some (value * 16 + d))) [] := by
  simp [StringState.step, hexValue?_of_isHexDigit h]

/-- The last digit of a numbered escape. -/
theorem step_lastHexDigit {value d : Nat} (h : IsHexDigit d b) :
    (StringState.digits lead 1 (some value)).step b = numbered lead (value * 16 + d) := by
  simp [StringState.step, hexValue?_of_isHexDigit h]

/-- Three digits of a numbered escape; what it does is seen from the fourth. -/
theorem reads_content_digits (h₁ : IsHexDigit m b₁) (h₂ : IsHexDigit n b₂) (h₃ : IsHexDigit p b₃)
    (hrest : Reads (contentReader (.digits lead 1 (some ((m * 16 + n) * 16 + p))) read) rest
      result) :
    Reads (contentReader (.digits lead 4 (some 0)) read) (b₁ :: b₂ :: b₃ :: rest) result := by
  have hfirst : (StringState.digits lead 4 (some 0)).step b₁ =
      .next (.digits lead 3 (some (0 * 16 + m))) [] := step_hexDigit h₁
  rw [Nat.zero_mul, Nat.zero_add] at hfirst
  exact reads_content_next hfirst (reads_content_next (step_hexDigit h₂)
    (reads_content_next (step_hexDigit h₃) hrest))

/-! ### Surrogates -/

theorem isTrail_of_isLead (h : isLead n = true) : isTrail n = false := by
  simp only [isLead, Bool.and_eq_true, decide_eq_true_eq] at h
  simp [isTrail]
  omega

/-- A leading surrogate opens a pair. -/
theorem numbered_lead (h : isLead n = true) : numbered none n = .next (.pair n) [] := by
  simp [numbered, h, isTrail_of_isLead h]

/-- A trailing surrogate closes a pair. -/
theorem numbered_trail (h : isTrail n = true) (m : Nat) :
    numbered (some m) n = .next .plain (String.utf8EncodeChar (paired m n)) := by
  rw [numbered, if_pos h, paired]

end Contents

/-! ### Code points -/

namespace CodePoint.Form

variable {octets : Bytes}

/-- A surrogate has no form but its number. -/
theorem exists_of_surrogate {n : Nat} (h : (surrogate n).Form octets) :
    ∃ m n₂ p q b₁ b₂ b₃ b₄, IsHexDigit m b₁ ∧ IsHexDigit n₂ b₂ ∧ IsHexDigit p b₃ ∧
      IsHexDigit q b₄ ∧ n = ((m * 16 + n₂) * 16 + p) * 16 + q ∧ 0xd800 ≤ n ∧ n ≤ 0xdfff ∧
      octets = ['\\'.toUInt8, 'u'.toUInt8, b₁, b₂, b₃, b₄] := by
  generalize hpoint : surrogate n = point at h
  cases h with
  | plain hquote hslash hcontrol => cases hpoint
  | letter h => cases hpoint
  | number h₁ h₂ h₃ h₄ =>
      rw [ofNat] at hpoint
      split at hpoint
      · cases hpoint
        exact ⟨_, _, _, _, _, _, _, _, h₁, h₂, h₃, h₄, rfl, by omega, by omega, rfl⟩
      · cases hpoint

/-- A character is read wherever nothing is left open. -/
theorem reads_content {c : Char} (h : (character c).Form octets) {read rest : Bytes}
    {result : Option (String × Bytes)}
    (hrest : Reads (contentReader .plain ((String.utf8EncodeChar c).reverse ++ read)) rest result) :
    Reads (contentReader .plain read) (octets ++ rest) result := by
  generalize hpoint : character c = point at h
  cases h with
  | plain hquote hslash hcontrol =>
      cases hpoint
      exact reads_content_plain (fun b hb => isPlain_of_char hquote hslash hcontrol hb) hrest
  | @letter letter _ h =>
      cases hpoint
      exact reads_content_next rfl (reads_content_next (step_letter _ h) hrest)
  | @number m n p q _ _ _ b₄ h₁ h₂ h₃ h₄ =>
      rw [ofNat] at hpoint
      split at hpoint
      · cases hpoint
      · next hn =>
          cases hpoint
          have htrail : isTrail (((m * 16 + n) * 16 + p) * 16 + q) = false := by
            simp [isTrail]; omega
          have hlead : isLead (((m * 16 + n) * 16 + p) * 16 + q) = false := by
            simp [isLead]; omega
          have hlast : (StringState.digits none 1 (some ((m * 16 + n) * 16 + p))).step b₄ =
              .next .plain
                (String.utf8EncodeChar (Char.ofNat (((m * 16 + n) * 16 + p) * 16 + q))) := by
            rw [step_lastHexDigit h₄]
            simp [numbered, htrail, hlead]
          exact reads_content_next rfl (reads_content_next rfl
            (reads_content_digits h₁ h₂ h₃ (reads_content_next hlast hrest)))

/-- Nothing but a trailing surrogate is read after a leading one. -/
theorem reads_content_pair_none {point : CodePoint} (h : point.Form octets)
    (hpoint : ∀ n, point = .surrogate n → isTrail n = false) (lead : Nat) (read rest : Bytes) :
    Reads (contentReader (.pair lead) read) (octets ++ rest) none := by
  cases h with
  | @plain c hquote hslash hcontrol =>
      obtain ⟨b, more, hc⟩ := List.exists_cons_of_ne_nil (String.utf8EncodeChar_ne_nil (c := c))
      have hplain : IsPlain b :=
        isPlain_of_char hquote hslash hcontrol (hc ▸ List.mem_cons_self)
      have hstep : (StringState.pair lead).step b = .failed .unfinishedSurrogates := by
        simp [StringState.step, hplain.2.1]
      rw [hc]
      exact reads_content_failed hstep read _
  | @letter letter c h =>
      have hletter : ∀ e ∈ letterEscapes, e.1.toUInt8 ≠ 'u'.toUInt8 := by decide
      have hstep : (StringState.pairEscape lead).step letter.toUInt8 =
          .failed .unfinishedSurrogates := by
        simp [StringState.step, hletter _ h]
      exact reads_content_next rfl (reads_content_failed hstep _ _)
  | @number m n p q _ _ _ b₄ h₁ h₂ h₃ h₄ =>
      have htrail : isTrail (((m * 16 + n) * 16 + p) * 16 + q) = false := by
        by_contra htrail
        have hbounds := htrail
        rw [Bool.not_eq_false, isTrail, Bool.and_eq_true, decide_eq_true_eq,
          decide_eq_true_eq] at hbounds
        refine htrail (hpoint _ ?_)
        rw [ofNat, if_pos (by omega)]
      have hlast : (StringState.digits (some lead) 1 (some ((m * 16 + n) * 16 + p))).step b₄ =
          .failed .loneSurrogate := by
        rw [step_lastHexDigit h₄]
        simp [numbered, htrail]
      exact reads_content_next rfl (reads_content_next rfl
        (reads_content_digits h₁ h₂ h₃ (reads_content_failed hlast _ _)))

/-- After a surrogate that leads no pair nothing is read. -/
theorem reads_content_surrogate {n : Nat} {rest read : Bytes}
    {result : Option (String × Bytes)} (h : (surrogate n).Form octets)
    (hlead : isLead n = true → Reads (contentReader (.pair n) read) rest result)
    (htrail : isLead n = false → result = none) :
    Reads (contentReader .plain read) (octets ++ rest) result := by
  obtain ⟨m, n₂, p, q, b₁, b₂, b₃, b₄, h₁, h₂, h₃, h₄, hn, hlow, hhigh, rfl⟩ :=
    h.exists_of_surrogate
  refine reads_content_next rfl (reads_content_next rfl (reads_content_digits h₁ h₂ h₃ ?_))
  have hlast : (StringState.digits none 1 (some ((m * 16 + n₂) * 16 + p))).step b₄ =
      numbered none n := by rw [step_lastHexDigit h₄, hn]
  cases hkind : isLead n with
  | true =>
      rw [numbered_lead hkind] at hlast
      exact reads_content_next hlast (hlead hkind)
  | false =>
      rw [htrail hkind]
      have hpair : isTrail n = true := by
        simp [isLead] at hkind
        simp [isTrail]
        omega
      have hfail : numbered none n = .failed .loneSurrogate := by simp [numbered, hpair]
      exact reads_content_failed (hlast.trans hfail) _ _

/-- A trailing surrogate after a leading one is read as the character of the pair. -/
theorem reads_content_trail {lead n : Nat} {rest read : Bytes} {result : Option (String × Bytes)}
    (h : (surrogate n).Form octets) (htrail : isTrail n = true)
    (hrest : Reads (contentReader .plain
      ((String.utf8EncodeChar (paired lead n)).reverse ++ read)) rest result) :
    Reads (contentReader (.pair lead) read) (octets ++ rest) result := by
  obtain ⟨m, n₂, p, q, b₁, b₂, b₃, b₄, h₁, h₂, h₃, h₄, hn, -, -, rfl⟩ := h.exists_of_surrogate
  have hlast : (StringState.digits (some lead) 1 (some ((m * 16 + n₂) * 16 + p))).step b₄ =
      .next .plain (String.utf8EncodeChar (paired lead n)) := by
    rw [step_lastHexDigit h₄, ← hn, numbered_trail htrail]
  exact reads_content_next rfl (reads_content_next rfl (reads_content_digits h₁ h₂ h₃
    (reads_content_next hlast hrest)))

end CodePoint.Form

/-! ### Whole strings -/

theorem reads_content_end (chars : List Char) (rest : Bytes) :
    Reads (contentReader .plain (chars.flatMap String.utf8EncodeChar).reverse)
      ('"'.toUInt8 :: rest) (some (String.ofList chars, rest)) := by
  intro place
  have hend : StringState.plain.step '"'.toUInt8 = .finished := rfl
  have hread := Text.decode?_flatMap_encodeChar chars
  rw [contentReader, contentFrom, hend]
  simp only [List.reverse_reverse, hread]
  rfl

/-- From between two code points on, a string is read as the characters that are left of it.  The
induction follows what the code points spell, two at a time where they are a pair. -/
theorem reads_content {points : List CodePoint} {parts : List Bytes}
    (h : List.Forall₂ CodePoint.Form points parts) (chars : List Char) (rest : Bytes) :
    Reads (contentReader .plain (chars.flatMap String.utf8EncodeChar).reverse)
      (parts.flatten ++ '"'.toUInt8 :: rest)
      ((characters? points).map fun more => (String.ofList (chars ++ more), rest)) := by
  have hchar (chars : List Char) (c : Char) :
      (String.utf8EncodeChar c).reverse ++ (chars.flatMap String.utf8EncodeChar).reverse =
        ((chars ++ [c]).flatMap String.utf8EncodeChar).reverse := by simp
  fun_induction characters? points generalizing chars parts with
  | case1 =>
      cases h
      simpa using reads_content_end chars rest
  | case2 c points ih =>
      obtain ⟨part, parts, hpart, hparts, rfl⟩ := List.forall₂_cons_left_iff.mp h
      have hmore := ih hparts (chars ++ [c])
      rw [List.flatten_cons, List.append_assoc, Option.map_map]
      refine hpart.reads_content ?_
      rw [hchar]
      simpa [Function.comp_def] using hmore
  | case3 lead trail points hpair ih =>
      obtain ⟨part, others, hpart, hothers, rfl⟩ := List.forall₂_cons_left_iff.mp h
      obtain ⟨second, parts, hsecond, hparts, rfl⟩ := List.forall₂_cons_left_iff.mp hothers
      have hmore := ih hparts (chars ++ [paired lead trail])
      rw [List.flatten_cons, List.flatten_cons, List.append_assoc, List.append_assoc,
        Option.map_map]
      refine hpart.reads_content_surrogate (fun _ => ?_) (fun h => absurd hpair.1 (by simp [h]))
      refine hsecond.reads_content_trail hpair.2 ?_
      rw [hchar]
      simpa [Function.comp_def] using hmore
  | case4 lead trail points hpair =>
      obtain ⟨part, others, hpart, hothers, rfl⟩ := List.forall₂_cons_left_iff.mp h
      obtain ⟨second, parts, hsecond, hparts, rfl⟩ := List.forall₂_cons_left_iff.mp hothers
      rw [List.flatten_cons, List.flatten_cons, List.append_assoc, List.append_assoc]
      refine hpart.reads_content_surrogate (fun hlead => ?_) fun _ => rfl
      refine hsecond.reads_content_pair_none ?_ _ _ _
      rintro n ⟨⟩
      simpa [hlead] using hpair
  | case5 lead points hpoints =>
      obtain ⟨part, parts, hpart, hparts, rfl⟩ := List.forall₂_cons_left_iff.mp h
      rw [List.flatten_cons, List.append_assoc]
      refine hpart.reads_content_surrogate (fun hlead => ?_) fun _ => rfl
      cases hparts with
      | nil => exact reads_content_failed rfl _ _
      | @cons point second points others hsecond hothers =>
          rw [List.flatten_cons, List.append_assoc]
          refine hsecond.reads_content_pair_none ?_ _ _ _
          rintro n rfl
          exact absurd rfl (hpoints n points)

/-- A string after its opening quote is read as the text it spells, and refused if it spells
none. -/
theorem reads_stringContent {points : List CodePoint} {parts : List Bytes}
    (h : List.Forall₂ CodePoint.Form points parts) (rest : Bytes) :
    Reads stringContent (parts.flatten ++ '"'.toUInt8 :: rest)
      (((characters? points).map String.ofList).map (·, rest)) := by
  rw [Option.map_map]
  exact reads_content h [] rest

/-! ## Strings passed over -/

/-- Passes over the rest of a string from a state on. -/
def skipReader (state : SkippedState) : Reader Unit := fun cursor =>
  skipStringFrom state cursor.place cursor.rest

section Skipped

variable {octets rest : Bytes} {b : UInt8} {result : Option (Unit × Bytes)}

/-- Octets that stand for themselves are passed over. -/
theorem reads_skip_plain (h : ∀ b ∈ octets, IsPlain b)
    (hrest : Reads (skipReader .plain) rest result) :
    Reads (skipReader .plain) (octets ++ rest) result := by
  induction octets with
  | nil => exact hrest
  | cons b octets ih =>
      obtain ⟨hquote, hslash, hcontrol⟩ := h b List.mem_cons_self
      have hmore := ih fun c hc => h c (List.mem_cons_of_mem _ hc)
      intro place
      rw [skipReader, List.cons_append, skipStringFrom]
      simp only [beq_iff_eq, hquote, hslash, hcontrol, if_false]
      exact hmore (place.after b)

/-- An escape of one letter is passed over after its backslash. -/
theorem reads_skip_letter {letter c : Char} (h : (letter, c) ∈ letterEscapes)
    (hrest : Reads (skipReader .plain) rest result) :
    Reads (skipReader .escape) (letter.toUInt8 :: rest) result := by
  have hletter : ∀ e ∈ letterEscapes, e.1.toUInt8 ≠ 'u'.toUInt8 ∧
      (escapeValue? e.1.toUInt8).isSome = true := by decide
  obtain ⟨hne, hsome⟩ := hletter _ h
  intro place
  rw [skipReader, skipStringFrom]
  simp only [beq_iff_eq, hne, if_false, hsome, if_true]
  exact hrest (place.after _)

/-- A digit of a numbered escape is passed over that more digits follow. -/
theorem reads_skip_hexDigit {d missing : Nat} (h : IsHexDigit d b)
    (hrest : Reads (skipReader (.digits (missing + 1) true)) rest result) :
    Reads (skipReader (.digits (missing + 2) true)) (b :: rest) result := by
  intro place
  rw [skipReader, skipStringFrom, hexValue?_of_isHexDigit h]
  exact hrest (place.after b)

/-- The last digit of a numbered escape leaves nothing open, whatever the number. -/
theorem reads_skip_lastHexDigit {d : Nat} (h : IsHexDigit d b)
    (hrest : Reads (skipReader .plain) rest result) :
    Reads (skipReader (.digits 1 true)) (b :: rest) result := by
  intro place
  rw [skipReader, skipStringFrom, hexValue?_of_isHexDigit h]
  exact hrest (place.after b)

/-- A code point of any kind is passed over. -/
theorem CodePoint.Form.reads_skip {point : CodePoint} (h : point.Form octets)
    (hrest : Reads (skipReader .plain) rest result) :
    Reads (skipReader .plain) (octets ++ rest) result := by
  cases h with
  | @plain c hquote hslash hcontrol =>
      exact reads_skip_plain (fun b hb => isPlain_of_char hquote hslash hcontrol hb) hrest
  | @letter letter c h => exact fun place => reads_skip_letter h hrest (place.after _)
  | @number m n p q b₁ b₂ b₃ b₄ h₁ h₂ h₃ h₄ =>
      have hdigits := reads_skip_hexDigit h₁ (reads_skip_hexDigit h₂
        (reads_skip_hexDigit h₃ (reads_skip_lastHexDigit h₄ hrest)))
      exact fun place => hdigits ((place.after _).after _)

/-- A string is passed over after its opening quote, whether it spells a text or not. -/
theorem reads_skipString {points : List CodePoint} {parts : List Bytes}
    (h : List.Forall₂ CodePoint.Form points parts) (rest : Bytes) :
    Reads skipString (parts.flatten ++ '"'.toUInt8 :: rest) (some ((), rest)) := by
  change Reads (skipReader .plain) _ _
  induction h with
  | nil => exact fun place => rfl
  | cons hpart hparts ih =>
      rw [List.flatten_cons, List.append_assoc]
      exact hpart.reads_skip ih

end Skipped

/-! ## Numbers -/

/-- No part of a number goes on here. -/
def Stops (rest : Bytes) : Prop :=
  ∀ b ∈ rest.head?, isDigit b = false ∧ b ≠ '.'.toUInt8 ∧ b ≠ 'e'.toUInt8 ∧ b ≠ 'E'.toUInt8

section Numbers

variable {octets rest : Bytes} {fraction : Option Bytes} {power : Option Power}

theorem IsDigits.exists_cons {digits : Bytes} (h : IsDigits digits) :
    ∃ b more, digits = b :: more ∧ isDigit b = true ∧ ∀ c ∈ more, isDigit c = true := by
  obtain ⟨hne, hdigits⟩ := h
  obtain ⟨b, more, rfl⟩ := List.exists_cons_of_ne_nil hne
  exact ⟨b, more, rfl, hdigits b List.mem_cons_self,
    fun c hc => hdigits c (List.mem_cons_of_mem _ hc)⟩

theorem reads_fractionDigits (ending : Cause) (h : IsFractionOf fraction octets)
    (hdigit : ∀ b ∈ rest.head?, isDigit b = false) (hpoint : ∀ b ∈ rest.head?, b ≠ '.'.toUInt8) :
    Reads (fractionDigits ending) (octets ++ rest) (some (fraction, rest)) := by
  cases fraction with
  | none =>
      obtain rfl := h
      refine (reads_peek? _).bind ?_
      cases rest with
      | nil => exact reads_pure _ _
      | cons b rest =>
          have hb := hpoint b rfl
          simp only [List.nil_append, List.head?_cons, beq_iff_eq, hb, if_false]
          exact reads_pure _ _
  | some digits =>
      obtain ⟨hdigits, rfl⟩ := h
      obtain ⟨b, more, rfl, hb, hmore⟩ := hdigits.exists_cons
      refine (reads_peek? _).bind ?_
      refine (reads_advance _ _).bind ((reads_takeWhile hdigits.2 hdigit).bind ?_)
      exact reads_pure _ _

/-- Reads the digits of a power of ten, after its sign. -/
def powerDigits (ending : Cause) (negative : Bool) : Reader (Option Power) := do
  match ← next? with
  | none => failHere ending
  | some first =>
    if isDigit first then
      let digits ← takeWhile isDigit
      pure (some ⟨negative, first :: digits⟩)
    else failHere .invalidNumber

theorem reads_powerDigits (ending : Cause) (negative : Bool) {digits : Bytes} (h : IsDigits digits)
    (hrest : ∀ b ∈ rest.head?, isDigit b = false) :
    Reads (powerDigits ending negative) (digits ++ rest)
      (some (some ⟨negative, digits⟩, rest)) := by
  obtain ⟨b, more, rfl, hb, hmore⟩ := h.exists_cons
  refine (reads_next? _).bind ?_
  simp only [List.cons_append, List.head?_cons, hb, if_true]
  exact (reads_takeWhile hmore hrest).bind (reads_pure _ _)

theorem reads_power (ending : Cause) (h : IsPowerOf power octets) (hrest : Stops rest) :
    Reads (Json.power ending) (octets ++ rest) (some (power, rest)) := by
  refine (reads_peek? _).bind ?_
  cases power with
  | none =>
      obtain rfl := h
      cases rest with
      | nil => exact reads_pure _ _
      | cons b rest =>
          obtain ⟨-, -, hlower, hupper⟩ := hrest b rfl
          simp only [List.nil_append, List.head?_cons, beq_iff_eq, hlower, hupper, or_self,
            Bool.or_eq_true, if_false]
          exact reads_pure _ _
  | some power =>
      obtain ⟨negative, digits⟩ := power
      obtain ⟨hdigits, mark, sign, hmark, hsign, rfl⟩ := h
      have hstop : ∀ b ∈ rest.head?, isDigit b = false := fun b hb => (hrest b hb).1
      have hdigit := reads_powerDigits ending negative hdigits hstop
      have hmarked : (mark == 'e'.toUInt8 || mark == 'E'.toUInt8) = true := by simpa using hmark
      simp only [List.cons_append, List.head?_cons, hmarked, if_true]
      refine (reads_advance _ _).bind ((reads_peek? _).bind ?_)
      cases negative with
      | true =>
          obtain rfl := hsign
          exact (reads_advance _ _).bind hdigit
      | false =>
          obtain rfl | rfl := hsign
          · obtain ⟨b, more, rfl, hb, hmore⟩ := hdigits.exists_cons
            have hplus : b ≠ '+'.toUInt8 := by
              rintro rfl
              cases hb
            have hminus : b ≠ '-'.toUInt8 := ne_minus_of_isDigit hb
            simp only [List.nil_append, List.cons_append, List.head?_cons, Option.some_beq_some,
              beq_eq_false_iff_ne.mpr hplus, beq_eq_false_iff_ne.mpr hminus, Bool.or_self,
              Bool.false_eq_true, if_false]
            exact hdigit
          · exact (reads_advance _ _).bind hdigit

/-- Where a power of ten may stand, no digit and no point does. -/
theorem IsPowerOf.head (h : IsPowerOf power octets) (hrest : Stops rest) :
    ∀ b ∈ (octets ++ rest).head?, isDigit b = false ∧ b ≠ '.'.toUInt8 := by
  cases power with
  | none =>
      obtain rfl := h
      exact fun b hb => ⟨(hrest b hb).1, (hrest b hb).2.1⟩
  | some power =>
      obtain ⟨-, mark, sign, hmark, -, rfl⟩ := h
      rintro b ⟨⟩
      obtain rfl | rfl := hmark <;> decide

/-- Where a fraction may stand, no digit does. -/
theorem IsFractionOf.head (h : IsFractionOf fraction octets)
    (hrest : ∀ b ∈ rest.head?, isDigit b = false) :
    ∀ b ∈ (octets ++ rest).head?, isDigit b = false := by
  cases fraction with
  | none =>
      obtain rfl := h
      exact hrest
  | some digits =>
      obtain ⟨-, rfl⟩ := h
      rintro b ⟨⟩
      rfl

/-- A number is read as its parts, after its sign. -/
theorem Numeral.Form.reads_numeral {numeral : Numeral} (h : numeral.Form octets)
    (hrest : Stops rest) : ∃ first more, isDigit first = true ∧
      octets = (if numeral.negative then ['-'.toUInt8] else []) ++ first :: more ∧
      ∀ ending, Reads (Json.numeral ending numeral.negative) (first :: more ++ rest)
        (some (numeral, rest)) := by
  obtain ⟨negative, whole, fraction, power⟩ := numeral
  obtain ⟨hwhole, hleading, fractionOctets, powerOctets, hfraction, hpower, rfl⟩ := h
  obtain ⟨first, more, rfl, hfirst, hmore⟩ := IsDigits.exists_cons hwhole
  refine ⟨first, more ++ (fractionOctets ++ powerOctets), hfirst, rfl, fun ending => ?_⟩
  have hpowerHead := hpower.head hrest
  have hhead := hfraction.head fun b hb => (hpowerHead b hb).1
  -- What comes after the whole part does not depend on how that was read.
  have hparts (first : UInt8) (more : Bytes) : Reads (do
      let fraction ← fractionDigits ending
      let power ← Json.power ending
      pure (⟨negative, first :: more, fraction, power⟩ : Numeral))
      (fractionOctets ++ (powerOctets ++ rest))
      (some (⟨negative, first :: more, fraction, power⟩, rest)) := by
    refine (reads_fractionDigits ending hfraction (fun b hb => (hpowerHead b hb).1)
      fun b hb => (hpowerHead b hb).2).bind ?_
    exact (reads_power ending hpower hrest).bind (reads_pure _ _)
  rw [List.cons_append, List.append_assoc, List.append_assoc]
  refine (reads_next? _).bind ?_
  simp only [List.head?_cons, List.tail_cons, hfirst, Bool.not_true,
    Bool.false_eq_true, if_false]
  by_cases hzero : first = '0'.toUInt8
  · subst hzero
    obtain rfl : more = [] := (List.cons.inj (hleading rfl)).2
    simp only [beq_self_eq_true, if_true, Bool.true_and]
    refine (reads_pure _ _).bind ((reads_peek? _).bind ?_)
    have hnone : Option.any isDigit (fractionOctets ++ (powerOctets ++ rest)).head? = false := by
      cases hnext : (fractionOctets ++ (powerOctets ++ rest)).head? with
      | none => rfl
      | some b => exact hhead b hnext
    simp only [List.nil_append, hnone, Bool.false_eq_true, if_false]
    exact hparts _ _
  · simp only [beq_iff_eq, hzero, if_false]
    refine (reads_takeWhile hmore hhead).bind ((reads_peek? _).bind ?_)
    simp only [beq_eq_false_iff_ne.mpr hzero, Bool.false_and, Bool.false_eq_true, if_false]
    exact hparts _ _

/-- A number is read as its value, after its sign, and refused if it is too large to have one. -/
theorem Numeral.Form.reads_number {numeral : Numeral} (h : numeral.Form octets)
    (hrest : Stops rest) : ∃ first more, isDigit first = true ∧
      octets = (if numeral.negative then ['-'.toUInt8] else []) ++ first :: more ∧
      Reads (number numeral.negative) (first :: more ++ rest)
        (numeral.value.toOption.map (·, rest)) := by
  obtain ⟨first, more, hfirst, hoctets, hread⟩ := h.reads_numeral hrest
  refine ⟨first, more, hfirst, hoctets, (hread .endInValue).bind ?_⟩
  cases numeral.value with
  | ok value => exact reads_pure _ _
  | error unread => exact fun place => rfl

/-- A number is passed over, after its sign. -/
theorem Numeral.Form.reads_skipNumber {numeral : Numeral} (h : numeral.Form octets)
    (hrest : Stops rest) : ∃ first more, isDigit first = true ∧
      octets = (if numeral.negative then ['-'.toUInt8] else []) ++ first :: more ∧
      Reads (skipNumber numeral.negative) (first :: more ++ rest) (some ((), rest)) := by
  obtain ⟨first, more, hfirst, hoctets, hread⟩ := h.reads_numeral hrest
  exact ⟨first, more, hfirst, hoctets, (hread .invalidNumber).bind (reads_pure _ _)⟩

end Numbers

end Cellbook.Json
