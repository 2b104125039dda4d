import Cellbook.Proofs.Script.Brackets

/-!
# The characters of a token

What a token outside quotations takes up: its characters have the brackets that the token has, and
no quote is among them and no slash but in front, so that a scan for quotes and comments passes over
them one by one (`scanToken_spells`).
-/

namespace Cellbook.Script

/-! ## Cursors -/

theorem Cursor.rest_next (cursor : Cursor) : cursor.next.rest = cursor.rest.drop 1 := by
  unfold Cursor.next
  split
  · next h => simp [h]
  · next h => simp [h]

theorem Cursor.rest_skip (n : Nat) (cursor : Cursor) :
    (cursor.skip n).rest = cursor.rest.drop n := by
  induction n generalizing cursor with
  | zero => rfl
  | succ n ih => rw [Cursor.skip, ih, Cursor.rest_next, List.drop_drop, Nat.add_comm]

/-! ## Characters -/

/-- A character with which no literal and no comment begins, whatever follows. -/
def Unmarked (c : Char) : Prop := Cell.isQuote c = false ∧ c ≠ '/'

/-- A letter, a digit or one of the other characters of names and numbers. -/
def IsWordlike (c : Char) : Prop :=
  c.isAlphanum = true ∨ c = '_' ∨ c = '.' ∨ c = '+' ∨ c = '-'

instance : DecidablePred IsWordlike := fun _ => inferInstanceAs (Decidable (_ ∨ _))

theorem IsWordlike.notMem {c : Char} (h : IsWordlike c) :
    c ∉ ['"', '\'', '`', '/', '(', '[', '\x7b', ')', ']', '\x7d'] := by
  intro hmem
  fin_cases hmem <;> exact absurd h (by decide)

theorem IsWordlike.unmarked {c : Char} (h : IsWordlike c) : Unmarked c := by
  have hnot := h.notMem
  simp only [List.mem_cons, not_or] at hnot
  exact ⟨by simp [Cell.isQuote, hnot], hnot.2.2.2.1⟩

theorem IsWordlike.plain {c : Char} (h : IsWordlike c) :
    Cell.isOpening c = false ∧ Cell.isClosing c = false := by
  have hnot := h.notMem
  simp only [List.mem_cons, not_or] at hnot
  exact ⟨by simp [Cell.isOpening, hnot], by simp [Cell.isClosing, hnot]⟩

theorem IsWordlike.ne_brace {c : Char} (h : IsWordlike c) : c ≠ '\x7b' ∧ c ≠ '\x7d' := by
  have hnot := h.notMem
  simp only [List.mem_cons, not_or] at hnot
  tauto

/-- Characters that are no brackets leave the depth as it is. -/
theorem foldl_depthAfter_of_plain {chars : List Char}
    (h : ∀ c ∈ chars, Cell.isOpening c = false ∧ Cell.isClosing c = false) (depth : Nat) :
    chars.foldl Cell.depthAfter depth = depth := by
  induction chars with
  | nil => rfl
  | cons c chars ih =>
      obtain ⟨hopening, hclosing⟩ := h c List.mem_cons_self
      have hc : Cell.depthAfter depth c = depth := by simp [Cell.depthAfter, hopening, hclosing]
      rw [List.foldl_cons, hc]
      exact ih fun d hd => h d (List.mem_cons_of_mem c hd)

/-! ## What a token takes up -/

/-- Whether a token, or a blank where there is none, takes up the characters `first :: others`. -/
structure Spells (token? : Option Token) (first : Char) (others : List Char) : Prop where
  unmarked : ∀ c ∈ others, Unmarked c
  /-- A brace is a token by itself, but for an opening one after other characters. -/
  brace : '\x7d' ∉ others ∧ (first = '\x7b' ∨ first = '\x7d' → others = [])
  symbol (spelling : String) :
    token? = some (.symbol spelling) → spelling.toList = first :: others
  /-- What is no symbol has no brackets. -/
  plain : (∀ spelling, token? ≠ some (.symbol spelling)) →
    ∀ c ∈ first :: others, Cell.isOpening c = false ∧ Cell.isClosing c = false

theorem Token.depthAfter_of_ne_symbol {token : Token}
    (h : ∀ spelling, token ≠ .symbol spelling) (depth : Nat) : token.depthAfter depth = depth := by
  cases token with
  | symbol spelling => exact absurd rfl (h spelling)
  | _ => rfl

/-- The brackets of a token are those of its characters. -/
theorem Spells.depth {token? : Option Token} {first : Char} {others : List Char}
    (h : Spells token? first others) (depth : Nat) :
    token?.elim depth (Token.depthAfter depth) = (first :: others).foldl Cell.depthAfter depth := by
  by_cases hsymbol : ∃ spelling, token? = some (.symbol spelling)
  · obtain ⟨spelling, rfl⟩ := hsymbol
    rw [← h.symbol spelling rfl]
    rfl
  · have hnot := not_exists.mp hsymbol
    rw [foldl_depthAfter_of_plain (h.plain hnot)]
    cases token? with
    | none => rfl
    | some token =>
        exact Token.depthAfter_of_ne_symbol (fun spelling h => hnot spelling (congrArg some h)) depth

theorem Spells.of_wordlike {token? : Option Token} {first : Char} {others : List Char}
    (h : ∀ c ∈ first :: others, IsWordlike c)
    (hsymbol : ∀ spelling, token? = some (.symbol spelling) → spelling.toList = first :: others) :
    Spells token? first others where
  unmarked := fun c hc => (h c (List.mem_cons_of_mem first hc)).unmarked
  brace := by
    refine ⟨fun hmem => (h _ (List.mem_cons_of_mem first hmem)).ne_brace.2 rfl, ?_⟩
    rintro (hfirst | hfirst)
    · exact absurd hfirst (h _ List.mem_cons_self).ne_brace.1
    · exact absurd hfirst (h _ List.mem_cons_self).ne_brace.2
  symbol := hsymbol
  plain := fun _ c hc => (h c hc).plain

/-! ## Numbers -/

theorem isAlphanum_of_isDigit {c : Char} (h : c.isDigit = true) : c.isAlphanum = true := by
  simp [Char.isAlphanum, h]

theorem isAlphanum_of_hexValue? {c : Char} (h : (hexValue? c).isSome = true) :
    c.isAlphanum = true := by
  unfold hexValue? at h
  split_ifs at h with hdigit hlower hupper
  · exact isAlphanum_of_isDigit hdigit
  · simp only [Bool.and_eq_true, decide_eq_true_eq, Char.le_def, UInt32.le_iff_toNat_le] at hlower
    have hc : c.isLower = true := by
      simp only [Char.isLower, Bool.and_eq_true, decide_eq_true_eq, ge_iff_le,
        UInt32.le_iff_toNat_le]
      exact ⟨hlower.1, hlower.2.trans (by decide)⟩
    simp [Char.isAlphanum, Char.isAlpha, hc]
  · simp only [Bool.and_eq_true, decide_eq_true_eq, Char.le_def, UInt32.le_iff_toNat_le] at hupper
    have hc : c.isUpper = true := by
      simp only [Char.isUpper, decide_eq_true_eq, ge_iff_le, UInt32.le_iff_toNat_le]
      exact ⟨hupper.1, hupper.2.trans (by decide)⟩
    simp [Char.isAlphanum, Char.isAlpha, hc]
  · cases h

namespace Numeral

/-- The digits that a numeral may still hold are letters and digits. -/
def Sound (numeral : Numeral) : Prop :=
  ∀ c, numeral.isDigit c = true → c.isAlphanum = true

theorem sound_whole : whole.Sound := fun _ h => isAlphanum_of_isDigit h

theorem sound_fraction : fraction.Sound := fun _ h => isAlphanum_of_isDigit h

theorem sound_digits : (digits Char.isDigit).Sound := fun _ h => isAlphanum_of_isDigit h

/-- A letter for a radix is a letter, and so are the digits that follow it. -/
theorem sound_of_ofRadix? {numeral numeral' : Numeral} {c : Char} {taken : List Char}
    (h : numeral.ofRadix? c taken = some numeral') : numeral'.Sound ∧ IsWordlike c := by
  cases numeral with
  | whole =>
      simp only [ofRadix?] at h
      split_ifs at h with htaken hhex hother
      · obtain rfl := Option.some.inj h
        refine ⟨fun _ hd => isAlphanum_of_hexValue? hd, .inl ?_⟩
        rcases Bool.or_eq_true_iff.mp hhex with hc | hc <;> rw [beq_iff_eq.mp hc] <;> rfl
      · obtain rfl := Option.some.inj h
        refine ⟨sound_digits, .inl ?_⟩
        simp only [Bool.or_eq_true, beq_iff_eq] at hother
        rcases hother with ((rfl | rfl) | rfl) | rfl <;> rfl
  | fraction => cases h
  | digits valid => cases h

end Numeral

/-- Whether the characters in front of a text are those of names and numbers, as many as it takes to
count from `first` to `last`. -/
def WordlikeUpTo (chars : List Char) (first last : Nat) : Prop :=
  ∃ used rest, chars = used ++ rest ∧ (∀ c ∈ used, IsWordlike c) ∧ last = first + used.length

theorem WordlikeUpTo.stop (chars : List Char) (n : Nat) : WordlikeUpTo chars n n :=
  ⟨[], chars, rfl, nofun, rfl⟩

theorem WordlikeUpTo.cons {c : Char} {chars : List Char} {first last : Nat} (hc : IsWordlike c)
    (h : WordlikeUpTo chars (first + 1) last) : WordlikeUpTo (c :: chars) first last := by
  obtain ⟨used, rest, rfl, hused, rfl⟩ := h
  refine ⟨c :: used, rest, rfl, ?_, by rw [List.length_cons]; omega⟩
  rintro d (_ | ⟨_, hd⟩)
  · exact hc
  · exact hused d hd

/-- A number takes up characters of numbers only. -/
theorem scanNumber_wordlike {numeral : Numeral} (h : numeral.Sound) (taken : List Char)
    (length : Nat) (chars : List Char) :
    WordlikeUpTo chars length (scanNumber numeral taken length chars).2 := by
  fun_induction scanNumber numeral taken length chars with
  | case1 | case5 | case7 | case9 | case10 | case12 => exact .stop _ _
  | case2 numeral taken length c rest hc ih => exact .cons (.inr (.inl (beq_iff_eq.mp hc))) (ih h)
  | case3 numeral taken length c rest _ hc ih => exact .cons (.inl (h c hc)) (ih h)
  | case4 numeral taken length c _ _ hc d rest _ ih =>
      have hpoint := beq_iff_eq.mp (Bool.and_eq_true_iff.mp hc).1
      exact .cons (.inr (.inr (.inl hpoint))) (ih Numeral.sound_fraction)
  | case6 numeral taken length c _ _ hc d rest _ _ ih =>
      have hpoint := beq_iff_eq.mp (Bool.and_eq_true_iff.mp hc).1
      exact .cons (.inr (.inr (.inl hpoint))) (ih Numeral.sound_fraction)
  | case8 numeral taken length c _ _ _ hc d rest hd ih =>
      have hletter : IsWordlike c := by
        rcases Bool.or_eq_true_iff.mp (Bool.and_eq_true_iff.mp hc).1 with hc | hc
        all_goals rw [beq_iff_eq.mp hc]; exact .inl rfl
      have hsign : IsWordlike d := by
        rcases Bool.or_eq_true_iff.mp hd with hd | hd
        · rcases Bool.or_eq_true_iff.mp hd with hd | hd
          · exact .inl (isAlphanum_of_isDigit hd)
          · exact .inr (.inr (.inr (.inl (beq_iff_eq.mp hd))))
        · exact .inr (.inr (.inr (.inr (beq_iff_eq.mp hd))))
      exact .cons hletter (.cons hsign (ih Numeral.sound_digits))
  | case11 numeral taken length c rest _ _ _ _ numeral' hradix ih =>
      obtain ⟨hsound, hc⟩ := Numeral.sound_of_ofRadix? hradix
      exact .cons hc (ih hsound)

theorem numberToken_ne_symbol (negative : Bool) (spelling : List Char) (position : Position)
    (symbol : String) : numberToken negative spelling position ≠ .symbol symbol := by
  unfold numberToken
  dsimp only
  split
  all_goals repeat' split
  all_goals exact nofun

/-- A number that a digit begins. -/
theorem scanNumeral_spells (negative : Bool) (position : Position) {cursor : Cursor} {c : Char}
    {rest : List Char} (hrest : cursor.rest = c :: rest) :
    ∃ used, rest = used ++ (scanNumeral negative position cursor).2.rest ∧
      (∀ d ∈ used, IsWordlike d) ∧
        ∀ symbol, (scanNumeral negative position cursor).1 ≠ .symbol symbol := by
  obtain ⟨used, after, happend, hused, hlength⟩ :=
    scanNumber_wordlike Numeral.sound_whole (cursor.rest.take 1) 1 rest
  refine ⟨used, ?_, hused, fun symbol => numberToken_ne_symbol _ _ _ symbol⟩
  simp only [scanNumeral, Cursor.rest_skip, hrest, List.drop_one, List.tail_cons]
  rw [hrest] at hlength
  rw [hlength, Nat.add_comm, List.drop_succ_cons, happend, List.drop_left]

/-! ## Words -/

theorem eq_of_ofWord {word : String} {position : Position} {spelling : String}
    (h : Token.ofWord word position = .symbol spelling) : spelling = word := by
  unfold Token.ofWord at h
  split_ifs at h
  · exact (Token.symbol.inj h).symm
  · exact (Token.symbol.inj h).symm

theorem isWordlike_of_continuesName {c : Char} (h : continuesName c = true) : IsWordlike c := by
  rcases Bool.or_eq_true_iff.mp h with h | h
  · exact .inl h
  · exact .inr (.inl (beq_iff_eq.mp h))

theorem continuesName_of_startsName {c : Char} (h : startsName c = true) :
    continuesName c = true := by
  rcases Bool.or_eq_true_iff.mp h with h | h
  · simp [continuesName, Char.isAlphanum, h]
  · simp [continuesName, beq_iff_eq.mp h]

/-! ## Symbols -/

theorem longestSpelling_cases (rest : List Char) (spellings : List String) :
    longestSpelling rest spellings = "" ∨
      longestSpelling rest spellings ∈ spellings ∧
        (longestSpelling rest spellings).toList <+: rest := by
  unfold longestSpelling
  generalize "" = best
  induction spellings generalizing best with
  | nil => exact .inl rfl
  | cons s spellings ih =>
      rw [List.foldl_cons]
      split
      · next h =>
          have hbegins := List.isPrefixOf_iff_prefix.mp (Bool.and_eq_true_iff.mp h).2
          rcases ih s with heq | ⟨hmem, hbegins'⟩
          · rw [heq]
            exact .inr ⟨List.mem_cons_self, hbegins⟩
          · exact .inr ⟨List.mem_cons_of_mem s hmem, hbegins'⟩
      · rcases ih best with heq | ⟨hmem, hbegins⟩
        · exact .inl heq
        · exact .inr ⟨List.mem_cons_of_mem s hmem, hbegins⟩

/-- In a symbol in use no mark begins but with its first character, and one that begins with a brace
has no other character. -/
theorem of_mem_symbols : ∀ spelling ∈ symbols, ∀ c ∈ spelling.toList.tail,
    (Cell.isQuote c = false ∧ c ≠ '/') ∧ c ≠ '\x7d' ∧
      spelling.toList.head? ≠ some '\x7b' ∧ spelling.toList.head? ≠ some '\x7d' := by
  simp [symbols, Cell.isQuote]

/-- The symbols out of use that are no faults are made of marks that are no brackets. -/
theorem of_mem_reservedSymbols : ∀ entry ∈ reservedSymbols, entry.2 = none →
    ∀ c ∈ entry.1.toList, (Cell.isQuote c = false ∧ c ≠ '/') ∧ (c ≠ '\x7b' ∧ c ≠ '\x7d') ∧
      Cell.isOpening c = false ∧ Cell.isClosing c = false := by
  simp [reservedSymbols, Cell.isQuote, Cell.isOpening, Cell.isClosing]

/-- A spelling that a text begins with takes up its first character and some of the others. -/
theorem exists_of_begins {spelling : String} {c : Char} {rest : List Char} (hne : spelling ≠ "")
    (h : spelling.toList <+: c :: rest) :
    ∃ used, spelling.toList = c :: used ∧ rest = used ++ (c :: rest).drop spelling.length := by
  obtain ⟨after, happend⟩ := h
  cases hspelling : spelling.toList with
  | nil => exact absurd (String.toList_eq_nil_iff.mp hspelling) hne
  | cons d used =>
      rw [hspelling, List.cons_append] at happend
      obtain ⟨rfl, rfl⟩ := List.cons.inj happend
      refine ⟨used, rfl, ?_⟩
      rw [← String.length_toList, hspelling, List.length_cons, List.drop_succ_cons, List.drop_left]

/-- A symbol out of use for which no advice is given is listed without any. -/
theorem mem_of_no_advice {spelling : String} (hmem : spelling ∈ reservedSymbols.map Prod.fst)
    (h : ∀ advice, reservedSymbols.lookup spelling ≠ some (some advice)) :
    (spelling, none) ∈ reservedSymbols := by
  cases hlookup : reservedSymbols.lookup spelling with
  | none =>
      obtain ⟨entry, hentry, rfl⟩ := List.mem_map.mp hmem
      exact absurd rfl (bne_iff_ne.mp (List.lookup_eq_none_iff.mp hlookup entry hentry))
  | some advice? =>
      cases advice? with
      | some advice => exact absurd hlookup (h advice)
      | none =>
          obtain ⟨before, after, heq, -⟩ := List.lookup_eq_some_iff.mp hlookup
          rw [heq]
          exact List.mem_append_right before List.mem_cons_self

/-- A symbol in use takes up the characters of its spelling. -/
theorem spells_symbol {spelling : String} {c : Char} {used : List Char}
    (hmem : spelling ∈ symbols) (hspelling : spelling.toList = c :: used) :
    Spells (some (.symbol spelling)) c used := by
  have hchars := of_mem_symbols spelling hmem
  rw [hspelling] at hchars
  refine ⟨fun d hd => (hchars d hd).1, ⟨fun hd => (hchars _ hd).2.1 rfl, ?_⟩, ?_,
    fun h => absurd rfl (h _)⟩
  · intro hc
    cases used with
    | nil => rfl
    | cons d used =>
        obtain ⟨-, -, hopening, hclosing⟩ := hchars d List.mem_cons_self
        rcases hc with rfl | rfl
        · exact absurd rfl hopening
        · exact absurd rfl hclosing
  · rintro spelling ⟨⟩
    exact hspelling

/-- So does a symbol out of use that is no fault. -/
theorem spells_reserved {spelling : String} {c : Char} {used : List Char}
    (hentry : (spelling, none) ∈ reservedSymbols) (hspelling : spelling.toList = c :: used) :
    Spells (some (.reserved spelling)) c used := by
  have hchars := of_mem_reservedSymbols _ hentry rfl
  rw [hspelling] at hchars
  refine ⟨?_, ⟨?_, ?_⟩, nofun, fun _ d hd => (hchars d hd).2.2⟩
  · exact fun d hd => (hchars d (List.mem_cons_of_mem c hd)).1
  · exact fun hd => (hchars _ (List.mem_cons_of_mem c hd)).2.1.2 rfl
  · rintro (hc | hc)
    · exact absurd hc (hchars _ List.mem_cons_self).2.1.1
    · exact absurd hc (hchars _ List.mem_cons_self).2.1.2

/-- What is scanned as a symbol and is no fault is a spelling that the text begins with, in use or
out of use. -/
theorem scanSymbol_cases {rest : List Char} {position : Position} {token : Token} {length : Nat}
    (h : scanSymbol rest position = some (token, length)) (hfault : token.isFault = false) :
    ∃ spelling : String, spelling ≠ "" ∧ spelling.toList <+: rest ∧ spelling.length = length ∧
      (token = .symbol spelling ∧ spelling ∈ symbols ∨
        token = .reserved spelling ∧ (spelling, none) ∈ reservedSymbols) := by
  unfold scanSymbol at h
  dsimp only at h
  generalize hinUse : (if (rest[3]?).any continuesName then symbols.filter (· != "!in")
    else symbols) = inUse at h
  have hsubset : ∀ spelling ∈ inUse, spelling ∈ symbols := by
    rw [← hinUse]
    split
    · exact fun spelling hmem => List.mem_of_mem_filter hmem
    · exact fun spelling hmem => hmem
  have hlongest := longestSpelling_cases rest inUse
  have hkept := longestSpelling_cases rest (reservedSymbols.map Prod.fst)
  generalize longestSpelling rest inUse = longest at h hlongest
  generalize longestSpelling rest (reservedSymbols.map Prod.fst) = kept at h hkept
  split at h
  · next hlt =>
      have hne : kept ≠ "" := by
        rintro rfl
        exact absurd hlt (Nat.not_lt_zero _)
      obtain ⟨hmem, hbegins⟩ := hkept.resolve_left hne
      split at h
      · obtain ⟨rfl, -⟩ := Prod.mk.inj (Option.some.inj h)
        cases hfault
      · next hadvice =>
          obtain ⟨rfl, rfl⟩ := Prod.mk.inj (Option.some.inj h)
          have hentry := mem_of_no_advice hmem fun advice => hadvice advice
          exact ⟨kept, hne, hbegins, rfl, .inr ⟨rfl, hentry⟩⟩
  · split at h
    · cases h
    · next hempty =>
        obtain ⟨rfl, rfl⟩ := Prod.mk.inj (Option.some.inj h)
        have hne : longest ≠ "" := by
          rintro rfl
          exact hempty rfl
        obtain ⟨hmem, hbegins⟩ := hlongest.resolve_left hne
        exact ⟨longest, hne, hbegins, rfl, .inl ⟨rfl, hsubset longest hmem⟩⟩

/-- A symbol that is no fault. -/
theorem scanSymbol_spells {c : Char} {rest : List Char} {position : Position} {token : Token}
    {length : Nat} (h : scanSymbol (c :: rest) position = some (token, length))
    (hfault : token.isFault = false) :
    ∃ used, rest = used ++ (c :: rest).drop length ∧ Spells (some token) c used := by
  obtain ⟨spelling, hne, hbegins, rfl, hcases⟩ := scanSymbol_cases h hfault
  obtain ⟨used, hspelling, hrest⟩ := exists_of_begins hne hbegins
  refine ⟨used, hrest, ?_⟩
  rcases hcases with ⟨rfl, hmem⟩ | ⟨rfl, hentry⟩
  · exact spells_symbol hmem hspelling
  · exact spells_reserved hentry hspelling

/-! ## Tokens -/

/-- A blank takes up itself. -/
theorem spells_blank {c : Char} (h : isBlank c = true) : Spells none c [] where
  unmarked := nofun
  brace := ⟨nofun, fun _ => rfl⟩
  symbol := nofun
  plain := fun _ d hd => by
    obtain rfl := List.mem_singleton.mp hd
    simp only [isBlank, Bool.or_eq_true, beq_iff_eq] at h
    rcases h with (((rfl | rfl) | rfl) | rfl) | h
    all_goals first
      | exact ⟨rfl, rfl⟩
      | obtain rfl : d = '\x0c' := Char.toNat_inj.mp h
        exact ⟨rfl, rfl⟩

/-- Outside quotations and comments, a token that is no fault takes up the characters it spells. -/
theorem scanToken_spells {awaited : Bool} {cursor after : Cursor} {c : Char} {rest : List Char}
    {token? : Option Token} (hrest : cursor.rest = c :: rest)
    (hcomment : c = '/' → rest.head? ≠ some '/' ∧ rest.head? ≠ some '*')
    (h : scanToken awaited cursor c rest = (token?, after))
    (hfault : ∀ token ∈ token?, token.isFault = false) :
    ∃ used, rest = used ++ after.rest ∧ Spells token? c used := by
  have hnext : cursor.next.rest = rest := by
    rw [Cursor.rest_next, hrest, List.drop_one, List.tail_cons]
  unfold scanToken at h
  split_ifs at h with hblank hline hblock hdigit hsign hname
  · obtain ⟨rfl, rfl⟩ := Prod.mk.inj h
    exact ⟨[], hnext.symm, spells_blank hblank⟩
  · obtain ⟨hc, hhead⟩ := Bool.and_eq_true_iff.mp hline
    exact absurd (beq_iff_eq.mp hhead) (hcomment (beq_iff_eq.mp hc)).1
  · obtain ⟨hc, hhead⟩ := Bool.and_eq_true_iff.mp hblock
    exact absurd (beq_iff_eq.mp hhead) (hcomment (beq_iff_eq.mp hc)).2
  · obtain ⟨rfl, rfl⟩ := Prod.mk.inj h
    obtain ⟨used, hused, hwordlike, hsymbol⟩ := scanNumeral_spells false cursor.position hrest
    refine ⟨used, hused, .of_wordlike ?_ fun symbol h => absurd (Option.some.inj h) (hsymbol symbol)⟩
    rintro d (_ | ⟨_, hd⟩)
    · exact .inl (isAlphanum_of_isDigit hdigit)
    · exact hwordlike d hd
  · obtain ⟨rfl, rfl⟩ := Prod.mk.inj h
    obtain ⟨hc, hhead⟩ := Bool.and_eq_true_iff.mp hsign
    obtain rfl := beq_iff_eq.mp (Bool.and_eq_true_iff.mp hc).1
    cases rest with
    | nil => cases hhead
    | cons first rest =>
        obtain ⟨used, hused, hwordlike, hsymbol⟩ := scanNumeral_spells true cursor.position hnext
        refine ⟨first :: used, congrArg (first :: ·) hused, .of_wordlike ?_ fun symbol h =>
          absurd (Option.some.inj h) (hsymbol symbol)⟩
        rintro d (_ | ⟨_, _ | ⟨_, hd⟩⟩)
        · exact .inr (.inr (.inr (.inr rfl)))
        · exact .inl (isAlphanum_of_isDigit hhead)
        · exact hwordlike d hd
  · obtain ⟨rfl, rfl⟩ := Prod.mk.inj h
    have hword : cursor.rest.takeWhile continuesName = c :: rest.takeWhile continuesName := by
      rw [hrest, List.takeWhile_cons, if_pos (continuesName_of_startsName hname)]
    have hwordlike : ∀ d ∈ c :: rest.takeWhile continuesName, IsWordlike d := by
      intro d hd
      rw [← hword] at hd
      exact isWordlike_of_continuesName (List.mem_takeWhile_imp hd)
    rw [hword]
    refine ⟨rest.takeWhile continuesName, ?_, .of_wordlike hwordlike fun spelling h => ?_⟩
    · rw [Cursor.rest_skip, hrest, List.length_cons, List.drop_succ_cons]
      exact (List.prefix_iff_eq_append.mp (List.takeWhile_prefix continuesName)).symm
    · rw [eq_of_ofWord (Option.some.inj h), String.toList_ofList]
  · split at h
    · next token length hsymbol =>
        obtain ⟨rfl, rfl⟩ := Prod.mk.inj h
        rw [hrest] at hsymbol
        rw [Cursor.rest_skip, hrest]
        exact scanSymbol_spells hsymbol (hfault token rfl)
    · obtain ⟨rfl, rfl⟩ := Prod.mk.inj h
      exact absurd (hfault _ rfl) nofun

end Cellbook.Script
