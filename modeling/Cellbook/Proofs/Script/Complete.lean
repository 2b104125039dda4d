import Cellbook.Proofs.Cell.Split
import Cellbook.Proofs.Script.Pieces

/-!
# Complete scripts

A source text that the script language accepts, and whose pieces it reads alike, is balanced
(`isBalanced_of_parseScript`).  Its tokens are followed along its cut, piece by piece; a backtick
literal is followed from one embedded block to the next.

So the last line of a cell is its tail where what is above it is complete for the script language
(`ofSource_of_parseScript`), but only if the pieces are read alike: a backslash in front of a
backtick is an escape for the balance of a cell, and an ordinary character for the script language.
-/

namespace Cellbook.Script

open Cellbook.Cell (Cut FirstPiece Piece Place ordinaries isQuote)

/-! ## The piece after an opening mark -/

/-- A text that begins with an opening mark is cut after the closing mark, or not at all. -/
theorem exists_of_opening {place : Place} (hplace : place.Enclosed) {text : List Char}
    {pieces : List Piece} (h : Cut (place.opening ++ text) pieces) :
    (∃ content rest pieces', place.Within content ∧ text = content ++ (place.closing ++ rest) ∧
        pieces = .enclosed place content true :: pieces' ∧ Cut rest pieces') ∨
      (∀ inside rest, place.Within inside → text ≠ inside ++ (place.closing ++ rest)) ∧
        pieces = [.enclosed place text false] := by
  by_cases hcloses : ∃ content rest, place.Within content ∧
      text = content ++ (place.closing ++ rest)
  · obtain ⟨content, rest, hcontent, rfl⟩ := hcloses
    obtain ⟨pieces', hpieces, hrest⟩ := exists_of_firstPiece h (.closed hplace hcontent)
    exact .inl ⟨content, rest, pieces', hcontent, rfl, hpieces, hrest⟩
  · have hopen : ∀ inside rest, place.Within inside → text ≠ inside ++ (place.closing ++ rest) :=
      fun inside rest hinside heq => hcloses ⟨inside, rest, hinside, heq⟩
    obtain ⟨pieces', hpieces, hrest⟩ := exists_of_firstPiece h (.unclosed hplace hopen)
    obtain rfl := Cut.nil.unique hrest
    exact .inr ⟨hopen, hpieces⟩

theorem Alike.of_cons {piece : Piece} {pieces : List Piece} (h : Alike (piece :: pieces)) :
    Alike pieces :=
  Alike.of_append [piece] h

theorem Sound.of_append {front tokens : List Placed} (h : Sound (front ++ tokens)) : Sound tokens :=
  fun placed hmem => h placed (List.mem_append_right front hmem)

theorem Literals.length_lt {quote : Char} {text rest : List Char} (h : Literals quote text rest) :
    rest.length < text.length := by
  induction h with
  | last _ =>
      simp only [List.length_append, List.length_cons]
      omega
  | more _ _ ih =>
      simp only [List.length_append, List.length_cons]
      omega

/-- Literals and comments that are closed have no tokens that count. -/
theorem tokensOf_nil {front : List Piece} (hclosed : ∀ piece ∈ front, piece.leftOpen = false)
    (hordinaries : ordinaries front = []) : TokensOf front [] where
  closed := hclosed
  depth := fun _ => by
    rw [hordinaries]
    rfl

/-- A token that is no symbol does not count. -/
theorem TokensOf.cons {pieces : List Piece} {placed : Placed} {tokens : List Placed}
    (hplaced : ∀ spelling, placed.token ≠ .symbol spelling) (h : TokensOf pieces tokens) :
    TokensOf pieces (placed :: tokens) where
  closed := h.closed
  depth := fun depth => by
    rw [← h.depth]
    exact congrArg (depthAfterAll · tokens) (Token.depthAfter_of_ne_symbol hplaced depth)

/-! ## Following the tokens -/

/-- Whether tokens agree with the pieces of what is left of a text, up to a number of steps. -/
def Agrees (fuel : Nat) : Prop :=
  ∀ {awaited : Bool} {cursor : Cursor} {pieces : List Piece}, Cut cursor.rest pieces →
    Alike pieces → cursor.rest.length < fuel → Sound (tokensFrom fuel [] awaited cursor) →
      TokensOf pieces (tokensFrom fuel [] awaited cursor)

/-- What comes after the content of a backtick literal: nothing, or the backtick that closes it and
the text that is cut further. -/
def Resumes (ending : List Char) (pieces : List Piece) : Prop :=
  ending = [] ∧ pieces = [] ∨ ∃ rest, ending = '`' :: rest ∧ Cut rest pieces

theorem Resumes.endsTemplate {ending : List Char} {pieces : List Piece} (h : Resumes ending pieces) :
    EndsTemplate ending := by
  rcases h with ⟨rfl, -⟩ | ⟨rest, rfl, -⟩
  · exact nofun
  · exact fun c hc => (Option.some.inj hc).symm

/-- The pieces after a backtick. -/
theorem exists_of_backtick {text : List Char} {pieces : List Piece} (h : Cut ('`' :: text) pieces)
    (halike : Alike pieces) :
    ∃ content ending closed pieces', Template content ∧ text = content ++ ending ∧
      (closed = true ↔ ending ≠ []) ∧ pieces = .enclosed (.literal '`') content closed :: pieces' ∧
      Resumes ending pieces' := by
  rcases exists_of_opening (.literal rfl) h with ⟨content, rest, pieces', -, rfl, rfl, hrest⟩ |
    ⟨-, rfl⟩
  · exact ⟨content, '`' :: rest, true, pieces', halike.each _ List.mem_cons_self rfl, rfl, by simp,
      rfl, .inr ⟨rest, rfl, hrest⟩⟩
  · exact ⟨text, [], false, [], halike.each _ List.mem_cons_self rfl, by simp, by simp, rfl,
      .inl ⟨rfl, rfl⟩⟩

/-- A backtick ends the text, unless another one follows it. -/
theorem scanQuoted_backtick (opening : Option Position) (taken : List Char) (scanned : Position)
    (rest : List Char) :
    (∃ rest' taken' scanned', rest = '`' :: rest' ∧
        scanQuoted '`' opening taken .plain scanned ('`' :: rest) =
          scanQuoted '`' opening taken' .plain scanned' rest') ∨
      ∃ value scanned', scanQuoted '`' opening taken .plain scanned ('`' :: rest) =
        .closed value false ⟨rest, scanned'⟩ := by
  rw [scanQuoted]
  by_cases hhead : rest.head? = some '`'
  · obtain ⟨rest', rfl⟩ := List.head?_eq_some_iff.mp hhead
    refine .inl ⟨rest', '`' :: taken, (scanned.after '`').after '`', rfl, ?_⟩
    simp [scanQuoted]
  · exact .inr ⟨String.ofList taken.reverse, scanned.after '`', by simp [hhead]⟩

/-- The tokens of an embedded block and the quotation around it, if those of the rest of the
quotation agree. -/
theorem depthAfterAll_block {value : String} {start brace position : Position}
    {front tokens : List Placed} {code : List Char} (hcode : Embedded code)
    (hfront : ∀ depth, depthAfterAll depth front = code.foldl Cell.depthAfter depth)
    (depth : Nat) :
    depthAfterAll depth (⟨.textBefore value, start⟩ :: ⟨.symbol "\x7b", brace⟩ ::
      (front ++ ⟨.symbol "\x7d", position⟩ :: tokens)) = depthAfterAll depth tokens := by
  calc depthAfterAll depth (⟨.textBefore value, start⟩ :: ⟨.symbol "\x7b", brace⟩ ::
        (front ++ ⟨.symbol "\x7d", position⟩ :: tokens))
      = depthAfterAll (depth + 1) (front ++ ⟨.symbol "\x7d", position⟩ :: tokens) := rfl
    _ = depthAfterAll (depth + 1) (⟨.symbol "\x7d", position⟩ :: tokens) := by
        rw [depthAfterAll_append, hfront, hcode.balanced]
    _ = depthAfterAll depth tokens := rfl

/-- The tokens from inside a backtick literal on agree with the pieces after it, and it is closed. -/
theorem tokensOf_template {fuel : Nat} (hagrees : ∀ fuel' ≤ fuel, Agrees fuel')
    {content ending : List Char} {pieces : List Piece} (hcontent : Template content)
    (hending : Resumes ending pieces) (halike : Alike pieces)
    (hfuel : (content ++ ending).length ≤ fuel) {opening : Option Position} {taken : List Char}
    {scanned position : Position}
    (hsound : Sound (templateTokens fuel [] position
      (scanQuoted '`' opening taken .plain scanned (content ++ ending)))) :
    ending ≠ [] ∧ TokensOf pieces (templateTokens fuel [] position
      (scanQuoted '`' opening taken .plain scanned (content ++ ending))) := by
  induction hlength : (content ++ ending).length using Nat.strong_induction_on
    generalizing fuel content ending pieces opening taken scanned position with
  | _ length ih =>
      rw [List.length_append] at hfuel hlength
      rcases scanQuoted_template hcontent hending.endsTemplate opening taken scanned with
        ⟨taken', scanned', heq⟩ | ⟨value, scanned', code, content', hcode, hcontent', hle, heq⟩
      · rw [heq] at hsound ⊢
        rcases hending with ⟨rfl, rfl⟩ | ⟨rest, rfl, hrest⟩
        · exact absurd hsound not_sound_fault
        · refine ⟨List.cons_ne_nil _ _, ?_⟩
          rw [List.length_cons] at hfuel hlength
          rcases scanQuoted_backtick opening taken' scanned' rest with
            ⟨rest', taken'', scanned'', rfl, heq⟩ | ⟨value, scanned'', heq⟩
          · -- A doubled backtick is the end of one literal and the beginning of another.
            rw [heq] at hsound ⊢
            obtain ⟨content'', ending', closed, pieces', hcontent'', rfl, hclosed, rfl, hending'⟩ :=
              exists_of_backtick hrest halike
            rw [List.length_cons] at hfuel hlength
            obtain ⟨hne, htokens⟩ := ih (content'' ++ ending').length (by omega) hagrees hcontent''
              hending' halike.of_cons (by omega) hsound rfl
            have hpiece : TokensOf [.enclosed (.literal '`') content'' closed] [] := by
              refine tokensOf_nil (fun piece hmem => ?_) rfl
              rw [List.mem_singleton.mp hmem, hclosed.mpr hne]
              rfl
            exact hpiece.append htokens
          · rw [heq] at hsound ⊢
            have htokens := hagrees fuel (Nat.le_refl fuel) hrest halike
              (Nat.lt_of_lt_of_le (Nat.lt_of_lt_of_le (Nat.lt_succ_self _)
                (Nat.le_add_left _ _)) hfuel) hsound.of_cons.2
            exact htokens.cons nofun
      · rw [heq] at hsound ⊢
        cases fuel with
        | zero => omega
        | succ fuel =>
            obtain ⟨opening', after, hafter, hbrace⟩ :=
              tokensFrom_brace (.inl rfl) rfl hsound.of_cons.2
            have hblock : Sound (tokensFrom fuel [1] true after) := by
              have hboth := hsound.of_cons.2
              rw [hbrace] at hboth
              exact hboth.of_cons.2
            obtain ⟨front, position', opening'', fuel', start, hstart, hle', hlt, hfront, hrest⟩ :=
              tokensFrom_embedded hcode.toBare hafter (by omega) hblock
            rw [hrest] at hblock
            have hresumed := hblock.of_append.of_cons.2
            rw [hstart] at hresumed hrest
            obtain ⟨hne, htokens⟩ := ih (content' ++ ending).length
              (by rw [List.length_append]; omega) (fun n hn => hagrees n (by omega)) hcontent'
              hending halike (by rw [List.length_append]; omega) hresumed rfl
            refine ⟨hne, htokens.closed, fun depth => ?_⟩
            have htemplate : templateTokens (fuel + 1) [] position
                (.closed value true ⟨'\x7b' :: (code ++ '\x7d' :: (content' ++ ending)), scanned'⟩) =
                  ⟨.textBefore value, position⟩ :: ⟨.symbol "\x7b", scanned'⟩ ::
                    tokensFrom fuel [1] true after := congrArg (_ :: ·) hbrace
            rw [htemplate, hrest, depthAfterAll_block hcode hfront, htokens.depth]

variable {fuel : Nat} {awaited : Bool} {cursor : Cursor} {c : Char} {rest : List Char}
  {pieces : List Piece}

theorem tokensOf_quote (hagrees : Agrees fuel) (hquote : c = '"' ∨ c = '\'')
    (hrest : cursor.rest = c :: rest) (hcut : Cut (c :: rest) pieces) (halike : Alike pieces)
    (hfuel : rest.length < fuel) (hsound : Sound (tokensFrom (fuel + 1) [] awaited cursor)) :
    TokensOf pieces (tokensFrom (fuel + 1) [] awaited cursor) := by
  obtain ⟨token, after, htoken, hliterals, heq⟩ := tokensFrom_quote hquote hrest hsound
  have hc : isQuote c = true := by rcases hquote with rfl | rfl <;> rfl
  obtain ⟨front, pieces', rfl, hafter, hclosed, hordinaries⟩ := exists_of_literals hc hliterals hcut
  rw [heq] at hsound ⊢
  have htokens := hagrees hafter (halike.of_append front) (hliterals.length_lt.trans hfuel) hsound.of_cons.2
  exact (tokensOf_nil hclosed hordinaries).append (htokens.cons htoken)

theorem tokensOf_backtick (hagrees : ∀ fuel' ≤ fuel, Agrees fuel')
    (hrest : cursor.rest = '`' :: rest) (hcut : Cut ('`' :: rest) pieces) (halike : Alike pieces)
    (hfuel : rest.length < fuel) (hsound : Sound (tokensFrom (fuel + 1) [] awaited cursor)) :
    TokensOf pieces (tokensFrom (fuel + 1) [] awaited cursor) := by
  obtain ⟨content, ending, closed, pieces', hcontent, rfl, hclosed, rfl, hending⟩ :=
    exists_of_backtick hcut halike
  have hnext : cursor.next.rest = content ++ ending := by
    rw [Cursor.rest_next, hrest, List.drop_one, List.tail_cons]
  obtain ⟨content', hcontent', hle, hinside⟩ :=
    rest_insideBacktick hcontent hending.endsTemplate hnext
  rw [tokensFrom_backtick hrest, hinside] at hsound ⊢
  have hlength : (content' ++ ending).length ≤ fuel := by
    rw [List.length_append] at hfuel ⊢
    omega
  obtain ⟨hne, htokens⟩ :=
    tokensOf_template hagrees hcontent' hending halike.of_cons hlength hsound
  have hpiece : TokensOf [.enclosed (.literal '`') content closed] [] := by
    refine tokensOf_nil (fun piece hmem => ?_) rfl
    rw [List.mem_singleton.mp hmem, hclosed.mpr hne]
    rfl
  exact hpiece.append htokens

/-- A comment is passed over. -/
theorem tokensOf_comment {after : Cursor} {place : Place} {content : List Char} {closed : Bool}
    (hagrees : Agrees fuel) (hrest : cursor.rest = '/' :: rest)
    (hscan : scanToken awaited cursor '/' rest = (none, after)) (hafter : Cut after.rest pieces)
    (halike : Alike (.enclosed place content closed :: pieces))
    (hclosed : (Piece.enclosed place content closed).leftOpen = false)
    (hfuel : after.rest.length < fuel)
    (hsound : Sound (tokensFrom (fuel + 1) [] awaited cursor)) :
    TokensOf (.enclosed place content closed :: pieces)
      (tokensFrom (fuel + 1) [] awaited cursor) := by
  obtain ⟨token?, after', hscan', -, hcases⟩ :=
    tokensFrom_other rfl (rawSigns?_eq_none (by decide) hrest) hrest hsound
  obtain ⟨rfl, rfl⟩ := Prod.mk.inj (hscan.symm.trans hscan')
  have heq : tokensFrom (fuel + 1) [] awaited cursor = tokensFrom fuel [] awaited after := by
    rcases hcases with ⟨-, heq⟩ | ⟨spelling, hspelling, -⟩ | ⟨token, htoken, -⟩
    · exact heq
    · cases hspelling
    · cases htoken
  rw [heq] at hsound ⊢
  have hpiece : TokensOf [.enclosed place content closed] [] := by
    refine tokensOf_nil (fun piece hmem => ?_) rfl
    rw [List.mem_singleton.mp hmem]
    exact hclosed
  exact hpiece.append (hagrees hafter halike.of_cons hfuel hsound)

theorem notMem_dropLast_marks {c d e : Char} {content : List Char} (hd : c ≠ d) (he : c ≠ e)
    (h : c ∉ content.dropLast) : c ∉ (d :: e :: content).dropLast := by
  rw [List.dropLast_cons_cons]
  refine List.not_mem_cons_of_ne_of_not_mem hd ?_
  cases content with
  | nil => exact List.not_mem_nil
  | cons f content =>
      rw [List.dropLast_cons_cons]
      exact List.not_mem_cons_of_ne_of_not_mem he h

theorem tokensOf_lineComment (hagrees : Agrees fuel) (hrest : cursor.rest = '/' :: '/' :: rest)
    (hcut : Cut ('/' :: '/' :: rest) pieces) (halike : Alike pieces) (hfuel : rest.length < fuel)
    (hsound : Sound (tokensFrom (fuel + 1) [] awaited cursor)) :
    TokensOf pieces (tokensFrom (fuel + 1) [] awaited cursor) := by
  have hscan : scanToken awaited cursor '/' ('/' :: rest) =
      (none, skipLine cursor.position ('/' :: '/' :: rest)) := by
    simp [scanToken, isBlank, hrest]
  rcases exists_of_opening .lineComment hcut with
    ⟨content, rest, pieces, hcontent, rfl, rfl, hafter⟩ | ⟨hopen, rfl⟩
  · have hreturn : '\r' ∉ ('/' :: '/' :: content).dropLast :=
      notMem_dropLast_marks (by decide) (by decide) (halike.each _ List.mem_cons_self)
    have hline : '\n' ∉ '/' :: '/' :: content := by
      suffices h : '\n' ∉ content by simpa using h
      exact hcontent
    have hend : (skipLine cursor.position ('/' :: '/' :: content ++ '\n' :: rest)).rest = rest :=
      rest_skipLine hline hreturn (by simp) cursor.position
    refine tokensOf_comment hagrees hrest hscan (hend.symm ▸ hafter) halike rfl ?_ hsound
    show (skipLine cursor.position ('/' :: '/' :: content ++ '\n' :: rest)).rest.length < fuel
    rw [hend]
    simp only [Place.closing, List.length_append, List.length_cons] at hfuel
    omega
  · have hreturn : '\r' ∉ ('/' :: '/' :: rest).dropLast :=
      notMem_dropLast_marks (by decide) (by decide) (halike.each _ List.mem_cons_self)
    have hline : '\n' ∉ '/' :: '/' :: rest := by
      suffices h : '\n' ∉ rest by simpa using h
      intro hmem
      obtain ⟨inside, more, rfl, hinside⟩ := List.eq_append_cons_of_mem hmem
      exact hopen inside more hinside rfl
    have hend : (skipLine cursor.position ('/' :: '/' :: rest ++ [])).rest = [] :=
      rest_skipLine hline hreturn (by simp) cursor.position
    rw [List.append_nil] at hend
    refine tokensOf_comment hagrees hrest hscan (hend.symm ▸ .nil) halike rfl ?_ hsound
    rw [hend]
    exact Nat.zero_lt_of_lt hfuel

theorem tokensOf_blockComment (hagrees : Agrees fuel) (hrest : cursor.rest = '/' :: '*' :: rest)
    (hcut : Cut ('/' :: '*' :: rest) pieces) (halike : Alike pieces) (hfuel : rest.length < fuel)
    (hsound : Sound (tokensFrom (fuel + 1) [] awaited cursor)) :
    TokensOf pieces (tokensFrom (fuel + 1) [] awaited cursor) := by
  have hscan : scanToken awaited cursor '/' ('*' :: rest) =
      (none, skipBlockComment 1 (cursor.skip 2).position rest) := by
    have hskip : (cursor.skip 2).rest = rest := by
      rw [Cursor.rest_skip, hrest]
      rfl
    simp [scanToken, isBlank, hskip]
  rcases exists_of_opening .blockComment hcut with
    ⟨content, rest, pieces, hcontent, rfl, rfl, hafter⟩ | ⟨-, rfl⟩
  · have hopening : ¬ ['/', '*'] <:+: content ++ ['*'] := (halike.each _ List.mem_cons_self).2
    have hend := rest_skipBlockComment hcontent hopening (cursor.skip 2).position rest
    refine tokensOf_comment hagrees hrest hscan (hend.symm ▸ hafter) halike rfl ?_ hsound
    show (skipBlockComment 1 (cursor.skip 2).position
      (content ++ '*' :: '/' :: rest)).rest.length < fuel
    rw [hend]
    simp only [Place.closing, List.length_append, List.length_cons] at hfuel
    omega
  · exact absurd (halike.each _ List.mem_cons_self).1 (by decide)

/-- No raw text begins where the pieces are read alike. -/
theorem Alike.rawSigns?_eq_none (halike : Alike pieces) (hcut : Cut cursor.rest pieces) :
    rawSigns? cursor = none := by
  rw [Option.eq_none_iff_forall_ne_some]
  intro signs hsigns
  obtain ⟨hne, hall, more, hmore⟩ := exists_of_rawSigns? hsigns
  rw [hmore] at hcut
  have hunmarked : ∀ d ∈ signs, Unmarked d := by
    intro d hd
    rw [hall d hd]
    exact ⟨rfl, by decide⟩
  obtain ⟨pieces', rfl, hcut'⟩ := exists_of_unmarked hunmarked hcut
  obtain ⟨content, closed, pieces'', rfl⟩ : ∃ content closed pieces'',
      pieces' = .enclosed (.literal '"') content closed :: pieces'' := by
    rcases exists_of_opening (.literal rfl) hcut' with
      ⟨content, rest, pieces'', -, -, rfl, -⟩ | ⟨-, rfl⟩
    · exact ⟨content, true, pieces'', rfl⟩
    · exact ⟨more, false, [], rfl⟩
  refine halike.cooked content closed ⟨signs.dropLast.map .ordinary, pieces'', ?_⟩
  have hlast : signs = signs.dropLast ++ ['#'] := by
    rw [← hall _ (List.getLast_mem hne), List.dropLast_append_getLast]
  conv_rhs => rw [hlast]
  simp

theorem tokensOf_spelled (hagrees : Agrees fuel) (hrest : cursor.rest = c :: rest)
    (hquote : isQuote c = false) (hcomment : c = '/' → rest.head? ≠ some '/' ∧ rest.head? ≠ some '*')
    (hcut : Cut (c :: rest) pieces) (halike : Alike pieces) (hfuel : rest.length < fuel)
    (hsound : Sound (tokensFrom (fuel + 1) [] awaited cursor)) :
    TokensOf pieces (tokensFrom (fuel + 1) [] awaited cursor) := by
  obtain ⟨token?, used, after, rfl, hspells, hone⟩ := tokensFrom_spelled hquote
    (halike.rawSigns?_eq_none (hrest.symm ▸ hcut)) hrest hcomment hsound
  obtain ⟨front, awaited', hfront, heq⟩ := hone (.inl rfl)
  obtain ⟨pieces', rfl, hcut'⟩ := exists_of_firstPiece hcut (firstPiece_ordinary hquote hcomment)
  obtain ⟨pieces'', rfl, hcut''⟩ := exists_of_unmarked hspells.unmarked hcut'
  rw [heq] at hsound ⊢
  have hchars : TokensOf ((c :: used).map .ordinary) front := by
    refine ⟨fun piece hmem => ?_, fun depth => ?_⟩
    · obtain ⟨d, -, rfl⟩ := List.mem_map.mp hmem
      rfl
    · rw [hfront, ordinaries_map_ordinary]
  have hlength : after.rest.length < fuel := by
    rw [List.length_append] at hfuel
    omega
  have halike'' : Alike pieces'' := Alike.of_append ((c :: used).map .ordinary) halike
  exact hchars.append (hagrees hcut'' halike'' hlength hsound.of_append)

/-- The tokens of a text agree with its pieces. -/
theorem agrees (fuel : Nat) : Agrees fuel := by
  induction fuel using Nat.strong_induction_on with
  | _ fuel ih =>
      intro awaited cursor pieces hcut halike hfuel hsound
      cases fuel with
      | zero => exact absurd hfuel (Nat.not_lt_zero _)
      | succ fuel =>
          have hagrees : ∀ fuel' ≤ fuel, Agrees fuel' :=
            fun fuel' hle => ih fuel' (Nat.lt_succ_of_le hle)
          have hlast : Agrees fuel := hagrees fuel (Nat.le_refl fuel)
          cases hrest : cursor.rest with
          | nil =>
              rw [hrest] at hcut
              rw [tokensFrom_end hrest, Cut.nil.unique hcut]
              have hnil : TokensOf [] [] := tokensOf_nil nofun rfl
              exact hnil.cons nofun
          | cons c rest =>
              rw [hrest] at hcut hfuel
              have hshort : rest.length < fuel := Nat.lt_of_succ_lt_succ hfuel
              by_cases hquote : isQuote c = true
              · rcases Cell.isQuote_iff.mp hquote with rfl | rfl | rfl
                · exact tokensOf_quote hlast (.inl rfl) hrest hcut halike hshort hsound
                · exact tokensOf_quote hlast (.inr rfl) hrest hcut halike hshort hsound
                · exact tokensOf_backtick hagrees hrest hcut halike hshort hsound
              · by_cases hline : ∃ rest', c = '/' ∧ rest = '/' :: rest'
                · obtain ⟨rest, rfl, rfl⟩ := hline
                  exact tokensOf_lineComment hlast hrest hcut halike (Nat.lt_of_succ_lt hshort) hsound
                · by_cases hblock : ∃ rest', c = '/' ∧ rest = '*' :: rest'
                  · obtain ⟨rest, rfl, rfl⟩ := hblock
                    exact tokensOf_blockComment hlast hrest hcut halike (Nat.lt_of_succ_lt hshort)
                      hsound
                  · refine tokensOf_spelled hlast hrest (Bool.eq_false_iff.mpr hquote) ?_ hcut halike
                      hshort hsound
                    intro hc
                    constructor
                    · intro hhead
                      obtain ⟨rest', rfl⟩ := List.head?_eq_some_iff.mp hhead
                      exact hline ⟨rest', hc, rfl⟩
                    · intro hhead
                      obtain ⟨rest', rfl⟩ := List.head?_eq_some_iff.mp hhead
                      exact hblock ⟨rest', hc, rfl⟩

/-! ## The end of the tokens -/

/-- Whether tokens end with the one that tells so, and no other tells it. -/
def EndsDone (tokens : List Placed) : Prop :=
  ∃ front position, tokens = front ++ [⟨.done, position⟩] ∧
    ∀ placed ∈ front, placed.token ≠ .done

theorem EndsDone.cons {placed : Placed} {tokens : List Placed} (hplaced : placed.token ≠ .done)
    (h : EndsDone tokens) : EndsDone (placed :: tokens) := by
  obtain ⟨front, position, rfl, hfront⟩ := h
  refine ⟨placed :: front, position, rfl, ?_⟩
  rintro other (_ | ⟨_, hmem⟩)
  · exact hplaced
  · exact hfront other hmem

theorem endsDone_done (position : Position) : EndsDone [⟨.done, position⟩] :=
  ⟨[], position, rfl, nofun⟩

theorem numberToken_ne_done (negative : Bool) (spelling : List Char) (position : Position) :
    numberToken negative spelling position ≠ .done := by
  unfold numberToken
  dsimp only
  split
  all_goals repeat' split
  all_goals exact nofun

theorem scanSymbol_ne_done {rest : List Char} {position : Position} {token : Token} {length : Nat}
    (h : scanSymbol rest position = some (token, length)) : token ≠ .done := by
  rintro rfl
  unfold scanSymbol at h
  dsimp only at h
  generalize longestSpelling rest (reservedSymbols.map Prod.fst) = kept at h
  generalize longestSpelling rest _ = longest at h
  split at h
  · split at h
    · cases (Prod.mk.inj (Option.some.inj h)).1
    · cases (Prod.mk.inj (Option.some.inj h)).1
  · split at h
    · cases h
    · cases (Prod.mk.inj (Option.some.inj h)).1

theorem scanToken_ne_done (awaited : Bool) (cursor : Cursor) (c : Char) (rest : List Char) :
    (scanToken awaited cursor c rest).1 ≠ some .done := by
  unfold scanToken scanNumeral
  split_ifs
  · exact nofun
  · exact nofun
  · exact nofun
  · exact fun h => numberToken_ne_done _ _ _ (Option.some.inj h)
  · exact fun h => numberToken_ne_done _ _ _ (Option.some.inj h)
  · unfold Token.ofWord
    dsimp only
    split_ifs
    all_goals exact nofun
  · split
    · next hsymbol => exact fun h => scanSymbol_ne_done hsymbol (Option.some.inj h)
    · exact nofun

theorem charToken_ne_done (text : String) (position : Position) :
    charToken text position ≠ .done := by
  unfold charToken
  split
  · exact nofun
  · exact nofun

/-- The tokens from a quote on, by the outcome of the scan that follows it. -/
def quotationTokens (fuel : Nat) (embedded : List Nat) (position : Position) (quote : Char) :
    Quotation → List Placed
  | .fault fault => [⟨.fault fault, position⟩, ⟨.done, position⟩]
  | .closed text true after =>
    ⟨.textBefore text, position⟩ :: tokensFrom fuel (0 :: embedded) false after
  | .closed text false after =>
    match if quote == '\'' then charToken text position else .text text with
    | .fault fault => [⟨.fault fault, position⟩, ⟨.done, position⟩]
    | token => ⟨token, position⟩ :: tokensFrom fuel embedded false after

theorem endsDone_fault (fault : SyntaxFault) (position : Position) :
    EndsDone [⟨.fault fault, position⟩, ⟨.done, position⟩] :=
  (endsDone_done position).cons nofun

theorem endsDone_quotation {fuel : Nat}
    (ih : ∀ embedded awaited cursor, EndsDone (tokensFrom fuel embedded awaited cursor))
    (embedded : List Nat) (position : Position) (quote : Char) (quotation : Quotation) :
    EndsDone (quotationTokens fuel embedded position quote quotation) := by
  cases quotation with
  | fault fault => exact endsDone_fault fault position
  | closed text embeds after =>
      cases embeds with
      | true => exact (ih (0 :: embedded) false after).cons nofun
      | false =>
          dsimp only [quotationTokens]
          split
          · exact endsDone_fault _ position
          · refine (ih embedded false after).cons ?_
            dsimp only
            split
            · exact charToken_ne_done text position
            · exact nofun

/-- The tokens of a text end with the one that tells so. -/
theorem endsDone_tokensFrom (fuel : Nat) (embedded : List Nat) (awaited : Bool) (cursor : Cursor) :
    EndsDone (tokensFrom fuel embedded awaited cursor) := by
  induction fuel generalizing embedded awaited cursor with
  | zero => exact endsDone_done cursor.position
  | succ fuel ih =>
      rw [tokensFrom]
      dsimp only
      split
      · exact endsDone_done cursor.position
      · next c rest hrest =>
          have hquoted (quote : Char) (start : Cursor) :=
            endsDone_quotation ih embedded cursor.position quote
              (scanQuoted quote (some cursor.position) [] .plain start.position start.rest)
          split
          · exact endsDone_fault _ _
          · split
            · exact hquoted c cursor.next
            · split
              · exact hquoted c (insideBacktick cursor.next)
              · split
                · split
                  · exact endsDone_fault _ _
                  · exact EndsDone.cons (by rintro ⟨⟩) (ih _ _ _)
                · split
                  · exact ih _ _ _
                  · exact endsDone_fault _ _
                  · refine EndsDone.cons (by rintro ⟨⟩) ?_
                    split
                    · exact ih _ _ _
                    · split
                      · exact endsDone_fault _ _
                      · exact EndsDone.cons (by rintro ⟨⟩) (ih _ _ _)
                      · exact EndsDone.cons (by rintro ⟨⟩) (ih _ _ _)
                  · next token after _ _ hscan =>
                      refine EndsDone.cons (fun htoken => ?_) (ih _ _ _)
                      refine scanToken_ne_done awaited cursor c rest ?_
                      rw [hscan]
                      exact congrArg some htoken

/-! ## Accepted scripts -/

/-- Where a reader passes all tokens up to one that tells the end, it passes all there are. -/
theorem EndsDone.of_passed {tokens ahead : List Placed} {depth : Nat} (h : EndsDone tokens)
    (hpassed : Passed tokens depth ahead)
    (hdone : (ahead.headD ⟨.done, .start⟩).token = .done) :
    Sound tokens ∧ depthAfterAll 0 tokens = depth := by
  obtain ⟨taken, rfl, htaken, rfl⟩ := hpassed
  obtain ⟨front, position, heq, hfront⟩ := h
  cases ahead with
  | nil =>
      rw [List.append_nil]
      exact ⟨htaken, rfl⟩
  | cons placed ahead =>
      obtain rfl : ahead = [] := by
        rcases List.append_eq_append_iff.mp heq with
          ⟨_ | ⟨other, more⟩, rfl, hlast⟩ | ⟨_ | ⟨other, more⟩, rfl, hlast⟩
        · exact (List.cons.inj hlast).2
        · obtain ⟨rfl, -⟩ := List.cons.inj hlast
          exact absurd hdone (hfront placed (List.mem_append_right taken List.mem_cons_self))
        · exact (List.cons.inj hlast).2.symm
        · simp at hlast
      rw [depthAfterAll_append]
      refine ⟨fun other hmem => ?_, Token.depthAfter_of_ne_symbol ?_ _⟩
      · rcases List.mem_append.mp hmem with hmem | hmem
        · exact htaken other hmem
        · rw [List.mem_singleton.mp hmem, show placed.token = .done from hdone]
          rfl
      · rw [show placed.token = .done from hdone]
        exact nofun

/-- A text that the script language accepts, and whose pieces it reads alike, is balanced. -/
theorem isBalanced_of_parseScript {firstLambda : Nat} {source : String} {program : Program}
    {pieces : List Piece} (hparse : parseScript firstLambda source = .ok program)
    (hcut : Cut source.toList pieces) (halike : Alike pieces) :
    Cell.isBalanced source.toList = true := by
  obtain ⟨ahead, hpassed, hdone⟩ := passed_of_parseScript hparse
  have hends : EndsDone (tokenize source) := endsDone_tokensFrom _ _ _ _
  obtain ⟨hsound, hdepth⟩ := hends.of_passed hpassed hdone
  have htokens : TokensOf pieces (tokenize source) :=
    agrees _ hcut halike (Nat.lt_succ_self _) hsound
  have hopen : pieces.any Piece.leftOpen = false := by
    rw [List.any_eq_false]
    exact fun piece hmem => Bool.eq_false_iff.mp (htokens.closed piece hmem)
  rw [Cell.isBalanced, hcut.depthFrom_eq, hopen, ← htokens.depth, hdepth]
  rfl

/-- A last line below statements that the script language accepts, whose pieces it reads alike, is
the tail of the cell. -/
theorem ofSource_of_parseScript {firstLambda : Nat} {body last : String} {pieces : List Piece}
    (hparse : (parseScript firstLambda body).isOk = true) (hcut : Cut body.toList pieces)
    (halike : Alike pieces) (hline : '\n' ∉ last.toList)
    (hblank : ¬ ∀ c ∈ last.toList, Text.isWhiteSpace c = true)
    (hbegins : CellParts.beginsBlank last.toList = false) :
    CellParts.ofSource (body ++ "\n" ++ last) =
      ⟨if (Cell.above body.toList).all Text.isWhiteSpace then none
        else some (String.ofList (Cell.above body.toList)),
        some (String.ofList (CellParts.trimEnd last.toList))⟩ := by
  obtain ⟨program, hprogram⟩ : ∃ program, parseScript firstLambda body = .ok program := by
    cases h : parseScript firstLambda body with
    | error fault =>
        rw [h] at hparse
        cases hparse
    | ok program => exact ⟨program, rfl⟩
  have hbalanced := isBalanced_of_parseScript hprogram hcut halike
  rw [Cell.ofSource_lastLine body hline hblank hbegins, if_pos hbalanced]

/-- The bracket in the literal does not count. -/
theorem ofSource_below_literal :
    (parseScript 0 "`(`").isOk = true ∧
      CellParts.ofSource ("`(`" ++ "\n" ++ "s ") = ⟨some "`(`", some "s"⟩ := by
  have hparse : (parseScript 0 "`(`").isOk = true := by decide +kernel
  have hcut : Cut "`(`".toList [.enclosed (.literal '`') ['('] true] :=
    .cons (.closed (.literal rfl) (.plain (by decide) (by decide) .nil)) .nil
  have halike : Alike [.enclosed (.literal '`') ['('] true] := by
    refine ⟨fun piece hmem => ?_, fun content closed hraw => ?_⟩
    · obtain rfl := List.mem_singleton.mp hmem
      exact fun _ => .plain (by decide) nofun .nil
    · exact absurd hraw.length_le (by simp)
  have hblank : ¬ ∀ c ∈ "s ".toList, Text.isWhiteSpace c = true :=
    fun h => absurd (h 's' (by simp)) (by decide +kernel)
  exact ⟨hparse, (ofSource_of_parseScript hparse hcut halike (by decide) hblank
    (by decide +kernel)).trans (by decide +kernel)⟩

/-- A backslash that ends a backtick literal of the script language leaves it open for the balance of
a cell, and the last line is folded into the body. -/
theorem ofSource_folds_below_backslash :
    (parseScript 0 "let s = `\\`;").isOk = true ∧
      CellParts.ofSource ("let s = `\\`;" ++ "\n" ++ "s") = ⟨some "let s = `\\`;\ns", none⟩ := by
  decide +kernel

end Cellbook.Script
