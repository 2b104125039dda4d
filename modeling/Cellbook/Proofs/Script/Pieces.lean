import Cellbook.Proofs.Script.Quotations

/-!
# Tokens and pieces

The lexical level of the script language and the balance of a cell each cut a source text, by rules
of their own.  Where every piece of the balance is one that the script language reads as the same
piece (`Alike`), a text without lexical faults leaves no piece open, and its tokens leave as many
brackets open as its ordinary characters (`tokensOf_tokenize`).
-/

namespace Cellbook.Script

open Cellbook.Cell (Cut FirstPiece Piece Place ordinaries isQuote)

/-! ## Pieces read alike -/

/-- Whether the script language ends a piece where the balance of a cell ends it. -/
def ReadsAlike : Piece → Prop
  | .enclosed (.literal quote) content _ => quote = '`' → Template content
  | .enclosed .lineComment content _ => '\r' ∉ content.dropLast
  | .enclosed .blockComment content closed =>
    closed = true ∧ ¬ ['/', '*'] <:+: content ++ ['*']
  | _ => True

/-- Whether the script language reads all pieces of a text alike. -/
structure Alike (pieces : List Piece) : Prop where
  each : ∀ piece ∈ pieces, ReadsAlike piece
  /-- No literal is raw text. -/
  cooked (content : List Char) (closed : Bool) :
    ¬ [.ordinary '#', .enclosed (.literal '"') content closed] <:+: pieces

theorem Alike.of_append (front : List Piece) {pieces : List Piece} (h : Alike (front ++ pieces)) :
    Alike pieces where
  each := fun piece hmem => h.each piece (List.mem_append_right front hmem)
  cooked := fun content closed hraw =>
    h.cooked content closed (hraw.trans (List.suffix_append front pieces).isInfix)

/-! ## The cut from its front -/

/-- The cut of a text begins with the piece that the text begins with. -/
theorem exists_of_firstPiece {text rest : List Char} {piece : Piece} {pieces : List Piece}
    (h : Cut text pieces) (hfirst : FirstPiece text piece rest) :
    ∃ pieces', pieces = piece :: pieces' ∧ Cut rest pieces' := by
  cases h with
  | nil => exact absurd rfl hfirst.ne_nil
  | @cons _ rest' piece' pieces' hfirst' hrest =>
      obtain ⟨rfl, rfl⟩ := hfirst'.unique hfirst
      exact ⟨pieces', rfl, hrest⟩

/-- A character with which no literal begins is ordinary, but for a slash in front of a comment. -/
theorem firstPiece_ordinary {c : Char} {rest : List Char} (hquote : isQuote c = false)
    (hslash : c = '/' → rest.head? ≠ some '/' ∧ rest.head? ≠ some '*') :
    FirstPiece (c :: rest) (.ordinary c) rest := by
  refine .ordinary fun place hplace hbegins => ?_
  cases hplace with
  | literal hplace =>
      obtain ⟨rfl, -⟩ := List.cons_prefix_cons.mp hbegins
      rw [hplace] at hquote
      cases hquote
  | lineComment =>
      obtain ⟨rfl, more, rfl⟩ := List.cons_prefix_cons.mp hbegins
      exact (hslash rfl).1 rfl
  | blockComment =>
      obtain ⟨rfl, more, rfl⟩ := List.cons_prefix_cons.mp hbegins
      exact (hslash rfl).2 rfl

/-- Characters with which no mark begins are ordinary. -/
theorem exists_of_unmarked {used rest : List Char} {pieces : List Piece}
    (hused : ∀ c ∈ used, Unmarked c) (h : Cut (used ++ rest) pieces) :
    ∃ pieces', pieces = used.map .ordinary ++ pieces' ∧ Cut rest pieces' := by
  induction used generalizing pieces with
  | nil => exact ⟨pieces, rfl, h⟩
  | cons c used ih =>
      obtain ⟨hquote, hslash⟩ := hused c List.mem_cons_self
      obtain ⟨pieces', rfl, hmore⟩ := exists_of_firstPiece h
        (firstPiece_ordinary hquote fun hc => absurd hc hslash)
      obtain ⟨pieces'', rfl, hrest⟩ := ih (fun d hd => hused d (List.mem_cons_of_mem c hd)) hmore
      exact ⟨pieces'', rfl, hrest⟩

/-- Literals side by side are pieces. -/
theorem exists_of_literals {quote : Char} {text rest : List Char} {pieces : List Piece}
    (hquote : isQuote quote = true) (hliterals : Literals quote text rest)
    (h : Cut (quote :: text) pieces) :
    ∃ front pieces', pieces = front ++ pieces' ∧ Cut rest pieces' ∧
      (∀ piece ∈ front, piece.leftOpen = false) ∧ ordinaries front = [] := by
  induction hliterals generalizing pieces with
  | @last content rest hcontent =>
      obtain ⟨pieces', rfl, hrest⟩ := exists_of_firstPiece h (.closed (.literal hquote) hcontent)
      refine ⟨[_], pieces', rfl, hrest, ?_, rfl⟩
      rintro piece (_ | ⟨_, hmem⟩)
      · rfl
      · cases hmem
  | @more content text rest hcontent _ ih =>
      obtain ⟨pieces', rfl, hrest⟩ := exists_of_firstPiece h (.closed (.literal hquote) hcontent)
      obtain ⟨front, pieces'', rfl, hrest, hclosed, hordinaries⟩ := ih hrest
      refine ⟨_ :: front, pieces'', rfl, hrest, ?_, hordinaries⟩
      rintro piece (_ | ⟨_, hmem⟩)
      · rfl
      · exact hclosed piece hmem

/-! ## Tokens of pieces -/

theorem ordinaries_append (front pieces : List Piece) :
    ordinaries (front ++ pieces) = ordinaries front ++ ordinaries pieces := by
  induction front with
  | nil => rfl
  | cons piece front ih => cases piece <;> simp [ordinaries, ih]

theorem ordinaries_map_ordinary (chars : List Char) :
    ordinaries (chars.map .ordinary) = chars := by
  induction chars with
  | nil => rfl
  | cons c chars ih => rw [List.map_cons, ordinaries, ih]

/-- Whether tokens leave as many brackets open as the ordinary characters of pieces of which none is
left open. -/
structure TokensOf (pieces : List Piece) (tokens : List Placed) : Prop where
  closed : ∀ piece ∈ pieces, piece.leftOpen = false
  depth (depth : Nat) :
    depthAfterAll depth tokens = (ordinaries pieces).foldl Cell.depthAfter depth

theorem depthAfterAll_append (depth : Nat) (front tokens : List Placed) :
    depthAfterAll depth (front ++ tokens) = depthAfterAll (depthAfterAll depth front) tokens :=
  List.foldl_append

theorem TokensOf.append {front pieces : List Piece} {tokens tokens' : List Placed}
    (hfront : TokensOf front tokens) (h : TokensOf pieces tokens') :
    TokensOf (front ++ pieces) (tokens ++ tokens') where
  closed := by
    intro piece hmem
    rcases List.mem_append.mp hmem with hmem | hmem
    · exact hfront.closed piece hmem
    · exact h.closed piece hmem
  depth := fun depth => by
    rw [depthAfterAll_append, h.depth, hfront.depth, ordinaries_append, List.foldl_append]

/-! ## One token -/

/-- The tokens from a backtick on, or from the brace on that closes an embedded block, by the outcome
of the scan that follows it. -/
def templateTokens (fuel : Nat) (embedded : List Nat) (position : Position) :
    Quotation → List Placed
  | .fault fault => [⟨.fault fault, position⟩, ⟨.done, position⟩]
  | .closed text true after =>
    ⟨.textBefore text, position⟩ :: tokensFrom fuel (0 :: embedded) false after
  | .closed text false after => ⟨.text text, position⟩ :: tokensFrom fuel embedded false after

/-- Whether none of the tokens is a fault. -/
def Sound (tokens : List Placed) : Prop := ∀ placed ∈ tokens, placed.token.isFault = false

theorem Sound.of_cons {placed : Placed} {tokens : List Placed} (h : Sound (placed :: tokens)) :
    placed.token.isFault = false ∧ Sound tokens :=
  ⟨h placed List.mem_cons_self, fun other hmem => h other (List.mem_cons_of_mem placed hmem)⟩

theorem not_sound_fault {fault : SyntaxFault} {position : Position} {tokens : List Placed} :
    ¬ Sound (⟨.fault fault, position⟩ :: tokens) :=
  fun h => absurd h.of_cons.1 nofun

variable {fuel : Nat} {embedded : List Nat} {awaited : Bool} {cursor : Cursor} {c : Char}
  {rest : List Char}

theorem tokensFrom_end (hrest : cursor.rest = []) :
    tokensFrom (fuel + 1) embedded awaited cursor = [⟨.done, cursor.position⟩] := by
  rw [tokensFrom]
  simp only [hrest]

theorem charToken_ne_symbol (text : String) (position : Position) (spelling : String) :
    charToken text position ≠ .symbol spelling := by
  unfold charToken
  split
  · exact nofun
  · exact nofun

/-- The tokens from a double or a single quote on. -/
theorem tokensFrom_quote (hquote : c = '"' ∨ c = '\'') (hrest : cursor.rest = c :: rest)
    (hsound : Sound (tokensFrom (fuel + 1) embedded awaited cursor)) :
    ∃ token after, (∀ spelling, token ≠ .symbol spelling) ∧ Literals c rest after.rest ∧
      tokensFrom (fuel + 1) embedded awaited cursor =
        ⟨token, cursor.position⟩ :: tokensFrom fuel embedded false after := by
  have hnext : cursor.next.rest = rest := by
    rw [Cursor.rest_next, hrest, List.drop_one, List.tail_cons]
  have hor : (c == '"' || c == '\'') = true := by rcases hquote with rfl | rfl <;> rfl
  rw [tokensFrom] at hsound ⊢
  simp only [hrest, hor, if_true] at hsound ⊢
  split_ifs at hsound ⊢ with hpair hsingle
  · exact absurd hsound not_sound_fault
  · rw [hnext] at hsound ⊢
    split at hsound
    · exact absurd hsound not_sound_fault
    · next text after hscan => exact absurd (scanQuoted_literals hquote hscan).1 (by decide)
    · next text after hscan =>
        refine ⟨charToken text cursor.position, after, charToken_ne_symbol text cursor.position,
          (scanQuoted_literals hquote hscan).2, ?_⟩
        split at hsound
        · exact absurd hsound not_sound_fault
        · rfl
  · rw [hnext] at hsound ⊢
    split at hsound
    · exact absurd hsound not_sound_fault
    · next text after hscan => exact absurd (scanQuoted_literals hquote hscan).1 (by decide)
    · next text after hscan =>
        exact ⟨.text text, after, nofun, (scanQuoted_literals hquote hscan).2, rfl⟩

/-- The tokens from a backtick on. -/
theorem tokensFrom_backtick (hrest : cursor.rest = '`' :: rest) :
    tokensFrom (fuel + 1) embedded awaited cursor =
      templateTokens fuel embedded cursor.position
        (scanQuoted '`' (some cursor.position) [] .plain (insideBacktick cursor.next).position
          (insideBacktick cursor.next).rest) := by
  rw [tokensFrom]
  simp only [hrest]
  cases scanQuoted '`' (some cursor.position) [] .plain (insideBacktick cursor.next).position
    (insideBacktick cursor.next).rest with
  | fault fault => rfl
  | closed text embeds after => cases embeds <;> rfl

/-- The tokens from any other character on, where no raw text begins. -/
theorem tokensFrom_other (hquote : isQuote c = false) (hraw : rawSigns? cursor = none)
    (hrest : cursor.rest = c :: rest)
    (hsound : Sound (tokensFrom (fuel + 1) embedded awaited cursor)) :
    ∃ token? after, scanToken awaited cursor c rest = (token?, after) ∧
      (∀ token ∈ token?, token.isFault = false) ∧
      ((token? = none ∧ tokensFrom (fuel + 1) embedded awaited cursor =
          tokensFrom fuel embedded awaited after) ∨
        (∃ spelling, token? = some (.symbol spelling) ∧
          tokensFrom (fuel + 1) embedded awaited cursor = ⟨.symbol spelling, cursor.position⟩ ::
            match countBraces spelling embedded with
            | some embedded =>
              tokensFrom fuel embedded (Token.awaitsOperand (.symbol spelling)) after
            | none => templateTokens fuel (embedded.drop 1) cursor.position (scanQuoted '`'
                (if after.rest.isEmpty then none else some after.position) [] .plain
                after.position after.rest)) ∨
        ∃ token, token? = some token ∧ (∀ spelling, token ≠ .symbol spelling) ∧
          tokensFrom (fuel + 1) embedded awaited cursor =
            ⟨token, cursor.position⟩ :: tokensFrom fuel embedded token.awaitsOperand after) := by
  obtain ⟨⟨hdouble, hsingle⟩, hbacktick⟩ :
      ((c == '"') = false ∧ (c == '\'') = false) ∧ (c == '`') = false := by
    simpa [isQuote] using hquote
  rw [tokensFrom] at hsound ⊢
  simp only [hrest, hdouble, hsingle, hbacktick, hraw, Bool.false_and, Bool.or_false,
    Bool.false_eq_true, if_false] at hsound ⊢
  rcases hscan : scanToken awaited cursor c rest with ⟨token?, after⟩
  rw [hscan] at hsound
  refine ⟨token?, after, rfl, ?_, ?_⟩
  · rintro token hmem
    obtain rfl := Option.mem_def.mp hmem
    cases token with
    | fault fault => exact absurd hsound not_sound_fault
    | _ => rfl
  · cases token? with
    | none => exact .inl ⟨rfl, rfl⟩
    | some token =>
        cases token with
        | fault fault => exact absurd hsound not_sound_fault
        | symbol spelling =>
            refine .inr (.inl ⟨spelling, rfl, ?_⟩)
            dsimp only
            cases countBraces spelling embedded with
            | some embedded => rfl
            | none =>
                cases scanQuoted '`' (if after.rest.isEmpty then none else some after.position) []
                  .plain after.position after.rest with
                | fault fault => rfl
                | closed text embeds after => cases embeds <;> rfl
        | _ => exact .inr (.inr ⟨_, rfl, nofun, rfl⟩)

/-- Raw text begins with number signs and a double quote. -/
theorem exists_of_rawSigns? {signs : List Char} (h : rawSigns? cursor = some signs) :
    signs ≠ [] ∧ (∀ d ∈ signs, d = '#') ∧ ∃ more, cursor.rest = signs ++ '"' :: more := by
  unfold rawSigns? at h
  dsimp only at h
  split at h
  · next hraw =>
      obtain rfl := Option.some.inj h
      obtain ⟨hsigns, hhead⟩ := Bool.and_eq_true_iff.mp hraw
      obtain ⟨more, hmore⟩ := List.head?_eq_some_iff.mp (beq_iff_eq.mp hhead)
      refine ⟨by simpa using hsigns, fun d hd => ?_, more, ?_⟩
      · exact beq_iff_eq.mp (List.mem_takeWhile_imp (p := (· == '#')) hd)
      · rw [← hmore]
        exact (List.prefix_iff_eq_append.mp (List.takeWhile_prefix (· == '#'))).symm
  · cases h

/-- Raw text begins with nothing else. -/
theorem rawSigns?_eq_none (hc : c ≠ '#') (hrest : cursor.rest = c :: rest) :
    rawSigns? cursor = none := by
  rw [Option.eq_none_iff_forall_ne_some]
  intro signs hsigns
  obtain ⟨hne, hall, more, hmore⟩ := exists_of_rawSigns? hsigns
  cases signs with
  | nil => exact hne rfl
  | cons d signs =>
      obtain ⟨rfl, -⟩ := List.cons.inj (hrest.symm.trans hmore)
      exact hc (hall c List.mem_cons_self)

/-- A symbol that has no brace does not count. -/
theorem countBraces_of_notMem {spelling : String}
    (h : '\x7b' ∉ spelling.toList ∧ '\x7d' ∉ spelling.toList) (embedded : List Nat) :
    countBraces spelling embedded = some embedded := by
  have hne (other : String) (hother : '\x7b' ∈ other.toList ∨ '\x7d' ∈ other.toList) :
      ¬ spelling = other := by
    rintro rfl
    exact hother.elim h.1 h.2
  cases embedded with
  | nil => rfl
  | cons n outer =>
      simp [countBraces, hne "\x7b" (by decide), hne "#\x7b" (by decide), hne "\x7d" (by decide)]

/-- The tokens from a character on with which no mark begins: one or none for it and the characters
it takes along, and those from there on. -/
theorem tokensFrom_spelled (hquote : isQuote c = false) (hraw : rawSigns? cursor = none)
    (hrest : cursor.rest = c :: rest)
    (hcomment : c = '/' → rest.head? ≠ some '/' ∧ rest.head? ≠ some '*')
    (hsound : Sound (tokensFrom (fuel + 1) embedded awaited cursor)) :
    ∃ token? used after, rest = used ++ after.rest ∧ Spells token? c used ∧
      (embedded = [] ∨ '\x7b' ∉ c :: used ∧ '\x7d' ∉ c :: used →
        ∃ front awaited',
          (∀ depth, depthAfterAll depth front = (c :: used).foldl Cell.depthAfter depth) ∧
            tokensFrom (fuel + 1) embedded awaited cursor =
              front ++ tokensFrom fuel embedded awaited' after) := by
  obtain ⟨token?, after, hscan, hfault, hcases⟩ := tokensFrom_other hquote hraw hrest hsound
  obtain ⟨used, hused, hspells⟩ := scanToken_spells hrest hcomment hscan hfault
  refine ⟨token?, used, after, hused, hspells, fun hembedded => ?_⟩
  rcases hcases with ⟨rfl, heq⟩ | ⟨spelling, rfl, heq⟩ | ⟨token, rfl, -, heq⟩
  · exact ⟨[], awaited, hspells.depth, heq⟩
  · have hcount : countBraces spelling embedded = some embedded := by
      rcases hembedded with rfl | hbrace
      · rfl
      · rw [← hspells.symbol spelling rfl] at hbrace
        exact countBraces_of_notMem hbrace embedded
    rw [hcount] at heq
    exact ⟨[⟨.symbol spelling, cursor.position⟩], _, hspells.depth, heq⟩
  · exact ⟨[⟨token, cursor.position⟩], _, hspells.depth, heq⟩

/-- The tokens from a brace on. -/
theorem tokensFrom_brace (hbrace : c = '\x7b' ∨ c = '\x7d') (hrest : cursor.rest = c :: rest)
    (hsound : Sound (tokensFrom (fuel + 1) embedded awaited cursor)) :
    ∃ opening after, after.rest = rest ∧
      tokensFrom (fuel + 1) embedded awaited cursor =
        ⟨.symbol (String.singleton c), cursor.position⟩ ::
          match countBraces (String.singleton c) embedded with
          | some embedded =>
            tokensFrom fuel embedded (Token.awaitsOperand (.symbol (String.singleton c))) after
          | none => templateTokens fuel (embedded.drop 1) cursor.position
              (scanQuoted '`' opening [] .plain after.position after.rest) := by
  have hnot : isQuote c = false ∧ c ≠ '/' ∧ c ≠ '#' := by
    rcases hbrace with rfl | rfl <;> decide
  obtain ⟨token?, after, hscan, hfault, hcases⟩ :=
    tokensFrom_other hnot.1 (rawSigns?_eq_none hnot.2.2 hrest) hrest hsound
  obtain ⟨used, hused, hspells⟩ :=
    scanToken_spells hrest (fun h => absurd h hnot.2.1) hscan hfault
  obtain rfl := hspells.brace.2 hbrace
  have hplain (h : ∀ spelling, token? ≠ some (.symbol spelling)) : False := by
    have hc := hspells.plain h c List.mem_cons_self
    rcases hbrace with rfl | rfl
    · exact absurd hc.1 (by decide)
    · exact absurd hc.2 (by decide)
  rcases hcases with ⟨rfl, -⟩ | ⟨spelling, rfl, heq⟩ | ⟨token, rfl, hne, -⟩
  · exact (hplain nofun).elim
  · obtain rfl : spelling = String.singleton c := by
      rw [← String.toList_inj, hspells.symbol spelling rfl, String.toList_singleton]
    exact ⟨_, after, hused.symm, heq⟩
  · exact (hplain fun spelling h => hne spelling (Option.some.inj h)).elim

/-! ## Embedded blocks -/

/-- What holds no mark ends before the mark. -/
theorem exists_of_append_eq {mark : Char} {used more code after : List Char}
    (hused : mark ∉ used) (h : used ++ more = code ++ mark :: after) :
    ∃ code', code = used ++ code' ∧ more = code' ++ mark :: after := by
  rcases List.append_eq_append_iff.mp h with ⟨code', rfl, rfl⟩ | ⟨between, rfl, hbetween⟩
  · exact ⟨code', rfl, rfl⟩
  · cases between with
    | nil => exact ⟨[], by simp, hbetween.symm⟩
    | cons d between =>
        obtain ⟨rfl, -⟩ := List.cons.inj hbetween
        exact absurd (List.mem_append_right code List.mem_cons_self) hused

/-- No raw text begins in code without quotes. -/
theorem Bare.rawSigns?_eq_none {code after : List Char} (h : Bare code)
    (hrest : cursor.rest = code ++ '\x7d' :: after) : rawSigns? cursor = none := by
  rw [Option.eq_none_iff_forall_ne_some]
  intro signs hsigns
  obtain ⟨-, hall, more, hmore⟩ := exists_of_rawSigns? hsigns
  obtain ⟨code', rfl, heq⟩ := exists_of_append_eq (fun hmem => absurd (hall _ hmem) (by decide))
    (hmore.symm.trans hrest)
  cases code' with
  | nil => exact absurd (List.cons.inj heq).1 (by decide)
  | cons d code' =>
      obtain ⟨rfl, -⟩ := List.cons.inj heq
      exact absurd (h.quote '"' (List.mem_append_right signs List.mem_cons_self)) (by decide)

/-- No comment begins in code without comments, nor with the brace after it. -/
theorem Bare.not_comment {code after : List Char} (h : Bare (c :: code)) (hc : c = '/') :
    (code ++ '\x7d' :: after).head? ≠ some '/' ∧ (code ++ '\x7d' :: after).head? ≠ some '*' := by
  subst hc
  cases code with
  | nil => exact ⟨by simp, by simp⟩
  | cons d code =>
      refine ⟨fun hd => h.comment.1 ?_, fun hd => h.comment.2 ?_⟩
      · obtain rfl := Option.some.inj hd
        exact ⟨[], code, rfl⟩
      · obtain rfl := Option.some.inj hd
        exact ⟨[], code, rfl⟩

/-- The tokens of an embedded block from behind its opening brace: those of its code, its closing
brace, and those of the quotation that goes on. -/
theorem tokensFrom_embedded {code after : List Char} (hcode : Bare code)
    (hrest : cursor.rest = code ++ '\x7d' :: after) (hfuel : code.length < fuel)
    (hsound : Sound (tokensFrom fuel [1] awaited cursor)) :
    ∃ front position opening fuel', ∃ start : Cursor, start.rest = after ∧
      fuel ≤ fuel' + code.length + 1 ∧ fuel' < fuel ∧
      (∀ depth, depthAfterAll depth front = code.foldl Cell.depthAfter depth) ∧
      tokensFrom fuel [1] awaited cursor = front ++ ⟨.symbol "\x7d", position⟩ ::
        templateTokens fuel' [] position
          (scanQuoted '`' opening [] .plain start.position start.rest) := by
  induction fuel generalizing code awaited cursor with
  | zero => exact absurd hfuel (Nat.not_lt_zero _)
  | succ fuel ih =>
      cases code with
      | nil =>
          obtain ⟨opening, start, hstart, heq⟩ := tokensFrom_brace (.inr rfl) hrest hsound
          exact ⟨[], cursor.position, opening, fuel, start, hstart, Nat.le_refl _,
            Nat.lt_succ_self fuel, fun _ => rfl, heq⟩
      | cons c code =>
          obtain ⟨token?, used, start, hused, hspells, hone⟩ :=
            tokensFrom_spelled (hcode.quote c List.mem_cons_self) (hcode.rawSigns?_eq_none hrest)
              hrest hcode.not_comment hsound
          obtain ⟨code', rfl, hstart⟩ := exists_of_append_eq hspells.brace.1 hused.symm
          have hbrace : '\x7b' ∉ c :: used ∧ '\x7d' ∉ c :: used := by
            have hmem : ∀ d ∈ c :: used, d ∈ c :: (used ++ code') :=
              fun d hd => List.mem_append_left code' hd
            exact ⟨fun h => hcode.brace.1 (hmem _ h), fun h => hcode.brace.2 (hmem _ h)⟩
          obtain ⟨front, awaited', hfront, heq⟩ := hone (.inr hbrace)
          rw [heq] at hsound ⊢
          have hsound' : Sound (tokensFrom fuel [1] awaited' start) :=
            fun placed hmem => hsound placed (List.mem_append_right front hmem)
          have hlength : code'.length < fuel := by
            simp only [List.length_cons, List.length_append] at hfuel
            omega
          obtain ⟨front', position, opening, fuel', start', hstart', hle, hlt, hfront', heq'⟩ :=
            ih (Bare.of_append (c :: used) hcode) hstart hlength hsound'
          refine ⟨front ++ front', position, opening, fuel', start', hstart', ?_,
            Nat.lt_succ_of_lt hlt, fun depth => ?_, ?_⟩
          · simp only [List.length_cons, List.length_append]
            omega
          · rw [depthAfterAll_append, hfront', hfront, ← List.foldl_append]
            rfl
          · rw [heq', List.append_assoc]

end Cellbook.Script
