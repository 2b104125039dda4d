import Cellbook.Cell.Balance
import Mathlib.Data.List.Infix

/-!
# What the balance of a text says

A source text is cut from left to right into string literals, comments and ordinary characters
(`Cut`).  The cut is stated without the scan: a piece that is enclosed begins with an opening mark
and runs up to the first closing mark of its kind, and what no opening mark begins is an ordinary
character.  Every text has exactly one cut.

A text is balanced just if its cut leaves no literal and no block comment open and every end of the
sequence of its ordinary brackets closes at least as many as it opens (`isBalanced_iff_cut`, and
`Cut.isBalanced_iff_written` with the characters written out).
-/

namespace Cellbook.Cell

/-! ## Enclosures -/

namespace Place

/-- The places that a mark opens: literals, by one of the three quotes, and comments. -/
inductive Enclosed : Place → Prop
  | literal {quote : Char} (h : isQuote quote = true) : Enclosed (.literal quote)
  | lineComment : Enclosed .lineComment
  | blockComment : Enclosed .blockComment

/-- The mark that opens a place. -/
def opening : Place → List Char
  | .code => []
  | .literal quote => [quote]
  | .lineComment => ['/', '/']
  | .blockComment => ['/', '*']

/-- The mark that closes a place. -/
def closing : Place → List Char
  | .code => []
  | .literal quote => [quote]
  | .lineComment => ['\n']
  | .blockComment => ['*', '/']

/-- Whether a text that ends in the place leaves something open.  A line comment needs no newline. -/
def leftOpen : Place → Bool
  | .literal _ | .blockComment => true
  | .code | .lineComment => false

end Place

/-- The content of a literal: a quote stands in it only after a backslash, which takes the character
after it along. -/
inductive Unquoted (quote : Char) : List Char → Prop
  | nil : Unquoted quote []
  | plain {c : Char} {content : List Char} (hescape : c ≠ '\\') (hquote : c ≠ quote)
      (h : Unquoted quote content) : Unquoted quote (c :: content)
  | escaped {c : Char} {content : List Char} (h : Unquoted quote content) :
      Unquoted quote ('\\' :: c :: content)

/-- What may stand between the opening mark of a place and the closing mark that ends it. -/
def Place.Within : Place → List Char → Prop
  | .code, _ => False
  | .literal quote, content => Unquoted quote content
  | .lineComment, content => '\n' ∉ content
  | .blockComment, content => ¬ ['*', '/'] <:+: content

/-! ## The cut -/

/-- A piece of a source text. -/
inductive Piece where
  /-- A string literal or a comment without its marks, and whether its closing mark is there. -/
  | enclosed (place : Place) (content : List Char) (closed : Bool)
  | ordinary (c : Char)
  deriving Repr, DecidableEq

/-- Whether a piece leaves a literal or a block comment open. -/
def Piece.leftOpen : Piece → Bool
  | .enclosed place _ closed => place.leftOpen && !closed
  | .ordinary _ => false

/-- The piece that a text begins with, and what comes after it. -/
inductive FirstPiece : List Char → Piece → List Char → Prop
  | /-- An opening mark, a content and the closing mark. -/
    closed {place : Place} {content rest : List Char} (hplace : place.Enclosed)
      (hcontent : place.Within content) :
      FirstPiece (place.opening ++ (content ++ (place.closing ++ rest)))
        (.enclosed place content true) rest
  | /-- An opening mark that no closing mark follows. -/
    unclosed {place : Place} {content : List Char} (hplace : place.Enclosed)
      (hcontent : ∀ inside rest, place.Within inside →
        content ≠ inside ++ (place.closing ++ rest)) :
      FirstPiece (place.opening ++ content) (.enclosed place content false) []
  | /-- A character with which no opening mark begins. -/
    ordinary {c : Char} {rest : List Char}
      (h : ∀ place : Place, place.Enclosed → ¬ place.opening <+: c :: rest) :
      FirstPiece (c :: rest) (.ordinary c) rest

/-- The pieces of a text from left to right. -/
inductive Cut : List Char → List Piece → Prop
  | nil : Cut [] []
  | cons {text rest : List Char} {piece : Piece} {pieces : List Piece}
      (hfirst : FirstPiece text piece rest) (hrest : Cut rest pieces) : Cut text (piece :: pieces)

/-- The ordinary characters among pieces. -/
def ordinaries : List Piece → List Char
  | [] => []
  | .enclosed _ _ _ :: pieces => ordinaries pieces
  | .ordinary c :: pieces => c :: ordinaries pieces

/-- The brackets among the ordinary characters of pieces. -/
def brackets (pieces : List Piece) : List Char :=
  (ordinaries pieces).filter fun c => isOpening c || isClosing c

/-! ## The scan of an enclosure -/

theorem isQuote_iff {c : Char} : isQuote c = true ↔ c = '"' ∨ c = '\'' ∨ c = '`' := by
  simp [isQuote, or_assoc]

theorem isOpening_iff {c : Char} : isOpening c = true ↔ c = '(' ∨ c = '[' ∨ c = '\x7b' := by
  simp [isOpening, or_assoc]

theorem isClosing_iff {c : Char} : isClosing c = true ↔ c = ')' ∨ c = ']' ∨ c = '\x7d' := by
  simp [isClosing, or_assoc]

theorem Place.Enclosed.opening_ne_nil {place : Place} (h : place.Enclosed) :
    place.opening ≠ [] := by
  cases h <;> simp [opening]

/-- After the opening mark of a place the scan is in that place. -/
theorem depthFrom_opening {place : Place} (h : place.Enclosed) (depth : Nat) (text : List Char) :
    depthFrom .code depth (place.opening ++ text) = depthFrom place depth text := by
  cases h with
  | literal hquote => exact depthFrom_quote hquote depth text
  | lineComment => simp [Place.opening, depthFrom]
  | blockComment => simp [Place.opening, depthFrom]

/-- A character with which no mark begins counts as the bracket that it is. -/
theorem depthFrom_ordinary {c : Char} {rest : List Char}
    (h : ∀ place : Place, place.Enclosed → ¬ place.opening <+: c :: rest) (depth : Nat) :
    depthFrom .code depth (c :: rest) = depthFrom .code (depthAfter depth c) rest := by
  have hquote : isQuote c = false := by
    rw [Bool.eq_false_iff]
    exact fun hquote => h _ (.literal hquote) ⟨rest, rfl⟩
  rw [depthFrom, hquote]
  · simp
  · rintro more rfl rfl
    exact h _ .lineComment ⟨more, rfl⟩
  · rintro more rfl rfl
    exact h _ .blockComment ⟨more, rfl⟩

/-- Inside a literal, any character that is neither a backslash nor the quote is passed over. -/
theorem depthFrom_literal_plain {quote c : Char} (hescape : c ≠ '\\') (hquote : c ≠ quote)
    (depth : Nat) (rest : List Char) :
    depthFrom (.literal quote) depth (c :: rest) = depthFrom (.literal quote) depth rest := by
  rw [depthFrom]
  · rw [if_neg (by simpa using hquote)]
  · exact fun h => absurd h hescape
  · exact fun _ _ h => absurd h hescape

/-- The quote ends a literal. -/
theorem depthFrom_literal_quote {quote : Char} (h : isQuote quote = true) (depth : Nat)
    (rest : List Char) :
    depthFrom (.literal quote) depth (quote :: rest) = depthFrom .code depth rest := by
  have hescape : quote ≠ '\\' := by
    rintro rfl
    exact absurd h (by decide)
  rw [depthFrom]
  · rw [if_pos (beq_self_eq_true quote)]
  · exact fun h => absurd h hescape
  · exact fun _ _ h => absurd h hescape

/-- A newline ends a line comment, and every other character is passed over. -/
theorem depthFrom_lineComment (depth : Nat) (c : Char) (rest : List Char) :
    depthFrom .lineComment depth (c :: rest) =
      depthFrom (if c == '\n' then .code else .lineComment) depth rest := by
  rw [depthFrom]

/-- Inside a block comment a character is passed over unless a closing mark begins with it. -/
theorem depthFrom_blockComment {c : Char} {rest : List Char}
    (h : ¬ ['*', '/'] <+: c :: rest) (depth : Nat) :
    depthFrom .blockComment depth (c :: rest) = depthFrom .blockComment depth rest := by
  rw [depthFrom]
  rintro more rfl rfl
  exact h ⟨more, rfl⟩

/-- The scan passes over the content of an enclosure and its closing mark. -/
theorem Place.Enclosed.depthFrom_closing {place : Place} (h : place.Enclosed) {content : List Char}
    (hcontent : place.Within content) (depth : Nat) (rest : List Char) :
    depthFrom place depth (content ++ (place.closing ++ rest)) = depthFrom .code depth rest := by
  cases h with
  | @literal quote hquote =>
      induction (hcontent : Unquoted quote content) with
      | nil => exact depthFrom_literal_quote hquote depth rest
      | plain hescape hne hinner ih =>
          rw [List.cons_append, depthFrom_literal_plain hescape hne]
          exact ih
      | escaped hinner ih =>
          rw [List.cons_append, List.cons_append, depthFrom]
          exact ih
  | lineComment =>
      induction content with
      | nil => exact depthFrom_lineComment depth '\n' rest
      | cons c content ih =>
          have hne : '\n' ≠ c := List.ne_of_not_mem_cons hcontent
          rw [List.cons_append, depthFrom_lineComment, if_neg (by simpa using Ne.symm hne)]
          exact ih (List.not_mem_of_not_mem_cons hcontent)
  | blockComment =>
      induction content with
      | nil => simp [closing, depthFrom]
      | cons c content ih =>
          have hrest : ¬ ['*', '/'] <:+: content := fun hoccurs =>
            hcontent (hoccurs.trans (List.suffix_cons c content).isInfix)
          rw [List.cons_append, depthFrom_blockComment, ih hrest]
          -- A mark that begins with `c` lies in the content, unless the closing mark follows at
          -- once, which begins with a star and not with a slash.
          intro hbegins
          cases content with
          | nil => simp [closing] at hbegins
          | cons d content =>
              obtain ⟨hstar, hmore⟩ := List.cons_prefix_cons.mp hbegins
              obtain ⟨hslash, -⟩ := List.cons_prefix_cons.mp hmore
              subst hstar hslash
              exact hcontent ⟨[], content, rfl⟩

/-- A text either closes a place or ends in it. -/
theorem Place.Enclosed.closes_or_ends {place : Place} (h : place.Enclosed) (depth : Nat) :
    ∀ text : List Char,
      (∃ content rest, place.Within content ∧ text = content ++ (place.closing ++ rest)) ∨
        depthFrom place depth text = if place.leftOpen then none else some depth := by
  cases h with
  | @literal quote hquote =>
      intro text
      induction text using List.twoStepInduction with
      | nil => exact .inr (by rw [depthFrom]; rfl)
      | singleton c =>
          by_cases hescape : c = '\\'
          · exact .inr (by rw [hescape, depthFrom]; rfl)
          · by_cases hc : c = quote
            · exact .inl ⟨[], [], .nil, by rw [hc]; rfl⟩
            · exact .inr (by rw [depthFrom_literal_plain hescape hc, depthFrom]; rfl)
      | cons_cons c d text ih ihrest =>
          by_cases hescape : c = '\\'
          · subst hescape
            rw [depthFrom]
            refine ih.imp_left ?_
            rintro ⟨content, rest, hcontent, rfl⟩
            exact ⟨'\\' :: d :: content, rest, .escaped hcontent, rfl⟩
          · by_cases hc : c = quote
            · exact .inl ⟨[], d :: text, .nil, by rw [hc]; rfl⟩
            · rw [depthFrom_literal_plain hescape hc]
              refine (ihrest d).imp_left ?_
              rintro ⟨content, rest, hcontent, heq⟩
              exact ⟨c :: content, rest, .plain hescape hc hcontent, congrArg (c :: ·) heq⟩
  | lineComment =>
      intro text
      induction text with
      | nil => exact .inr (by rw [depthFrom]; rfl)
      | cons c text ih =>
          by_cases hc : c = '\n'
          · exact .inl ⟨[], text, List.not_mem_nil, by rw [hc]; rfl⟩
          · rw [depthFrom_lineComment, if_neg (by simpa using hc)]
            refine ih.imp_left ?_
            rintro ⟨content, rest, hcontent, rfl⟩
            exact ⟨c :: content, rest, List.not_mem_cons_of_ne_of_not_mem (Ne.symm hc) hcontent, rfl⟩
  | blockComment =>
      intro text
      induction text with
      | nil => exact .inr (by rw [depthFrom]; rfl)
      | cons c text ih =>
          by_cases hc : ['*', '/'] <+: c :: text
          · obtain ⟨rest, hrest⟩ := hc
            exact .inl ⟨[], rest, by simp [Within], hrest.symm⟩
          · rw [depthFrom_blockComment hc]
            refine ih.imp_left ?_
            rintro ⟨content, rest, hcontent, rfl⟩
            refine ⟨c :: content, rest, fun hoccurs => ?_, rfl⟩
            rcases List.infix_cons_iff.mp hoccurs with hbegins | hoccurs
            · exact hc (hbegins.trans (List.prefix_append (c :: content) _))
            · exact hcontent hoccurs

/-! ## The one cut -/

/-- No closing mark comes before the first one. -/
theorem Place.Enclosed.length_le {place : Place} (h : place.Enclosed) :
    ∀ {content other rest more : List Char}, place.Within content → place.Within other →
      content ++ (place.closing ++ rest) = other ++ (place.closing ++ more) →
        other.length ≤ content.length := by
  cases h with
  | @literal quote hquote =>
      intro content other rest more hcontent hother heq
      have hescape : quote ≠ '\\' := by
        rintro rfl
        exact absurd hquote (by decide)
      induction (hcontent : Unquoted quote content) generalizing other with
      | nil =>
          cases (hother : Unquoted quote other) with
          | nil => exact Nat.le_refl 0
          | plain _ hne _ => exact absurd (List.cons.inj heq).1.symm hne
          | escaped _ => exact absurd (List.cons.inj heq).1 hescape
      | plain hc hne hinner ih =>
          cases (hother : Unquoted quote other) with
          | nil => exact Nat.zero_le _
          | plain _ _ hother => exact Nat.succ_le_succ (ih hother (List.cons.inj heq).2)
          | escaped _ => exact absurd (List.cons.inj heq).1 hc
      | escaped hinner ih =>
          cases (hother : Unquoted quote other) with
          | nil => exact Nat.zero_le _
          | plain hc _ _ => exact absurd (List.cons.inj heq).1.symm hc
          | escaped hother =>
              have htail := (List.cons.inj (List.cons.inj heq).2).2
              exact Nat.succ_le_succ (Nat.succ_le_succ (ih hother htail))
  | lineComment =>
      intro content
      induction content with
      | nil =>
          rintro (_ | ⟨d, other⟩) rest more - hother heq
          · exact Nat.le_refl 0
          · exact absurd (List.cons.inj heq).1 (List.ne_of_not_mem_cons hother)
      | cons c content ih =>
          rintro (_ | ⟨d, other⟩) rest more hcontent hother heq
          · exact Nat.zero_le _
          · exact Nat.succ_le_succ (ih (List.not_mem_of_not_mem_cons hcontent)
              (List.not_mem_of_not_mem_cons hother) (List.cons.inj heq).2)
  | blockComment =>
      intro content
      induction content with
      | nil =>
          rintro (_ | ⟨d, _ | ⟨e, other⟩⟩) rest more - hother heq
          · exact Nat.le_refl 0
          · simp [closing] at heq
          · obtain ⟨hstar, hrest⟩ := List.cons.inj heq
            obtain ⟨hslash, -⟩ := List.cons.inj hrest
            subst hstar hslash
            exact absurd ⟨[], other, rfl⟩ hother
      | cons c content ih =>
          rintro (_ | ⟨d, other⟩) rest more hcontent hother heq
          · exact Nat.zero_le _
          · refine Nat.succ_le_succ (ih ?_ ?_ (List.cons.inj heq).2)
            · exact fun h => hcontent (h.trans (List.suffix_cons c content).isInfix)
            · exact fun h => hother (h.trans (List.suffix_cons d other).isInfix)

/-- No two places open with the same mark. -/
theorem Place.Enclosed.opening_inj {place other : Place} (h : place.Enclosed)
    (hother : other.Enclosed) {text text' : List Char}
    (heq : place.opening ++ text = other.opening ++ text') : place = other ∧ text = text' := by
  have hslash : isQuote '/' ≠ true := by decide
  cases h with
  | literal hquote =>
      cases hother with
      | literal _ =>
          obtain ⟨rfl, rfl⟩ := List.cons.inj heq
          exact ⟨rfl, rfl⟩
      | lineComment => exact absurd ((List.cons.inj heq).1 ▸ hquote) hslash
      | blockComment => exact absurd ((List.cons.inj heq).1 ▸ hquote) hslash
  | lineComment =>
      cases hother with
      | literal hquote => exact absurd ((List.cons.inj heq).1 ▸ hquote) hslash
      | lineComment => exact ⟨rfl, List.append_cancel_left heq⟩
      | blockComment => simp [opening] at heq
  | blockComment =>
      cases hother with
      | literal hquote => exact absurd ((List.cons.inj heq).1 ▸ hquote) hslash
      | lineComment => simp [opening] at heq
      | blockComment => exact ⟨rfl, List.append_cancel_left heq⟩

/-- A text begins with one piece. -/
theorem FirstPiece.unique {text rest more : List Char} {piece other : Piece}
    (h : FirstPiece text piece rest) (hother : FirstPiece text other more) :
    piece = other ∧ rest = more := by
  generalize htext : text = text' at hother
  cases h with
  | @closed place content rest hplace hcontent =>
      cases hother with
      | closed hplace' hcontent' =>
          obtain ⟨rfl, heq⟩ := hplace.opening_inj hplace' htext
          have hlength := Nat.le_antisymm (hplace.length_le hcontent' hcontent heq.symm)
            (hplace.length_le hcontent hcontent' heq)
          obtain ⟨rfl, hrest⟩ := List.append_inj heq hlength
          exact ⟨rfl, List.append_cancel_left hrest⟩
      | unclosed hplace' hcontent' =>
          obtain ⟨rfl, heq⟩ := hplace.opening_inj hplace' htext
          exact absurd heq.symm (hcontent' _ _ hcontent)
      | ordinary h => exact absurd ⟨_, htext⟩ (h place hplace)
  | @unclosed place content hplace hcontent =>
      cases hother with
      | closed hplace' hcontent' =>
          obtain ⟨rfl, heq⟩ := hplace.opening_inj hplace' htext
          exact absurd heq (hcontent _ _ hcontent')
      | unclosed hplace' hcontent' =>
          obtain ⟨rfl, rfl⟩ := hplace.opening_inj hplace' htext
          exact ⟨rfl, rfl⟩
      | ordinary h => exact absurd ⟨_, htext⟩ (h place hplace)
  | @ordinary c rest h =>
      cases hother with
      | closed hplace' _ => exact absurd ⟨_, htext.symm⟩ (h _ hplace')
      | unclosed hplace' _ => exact absurd ⟨_, htext.symm⟩ (h _ hplace')
      | ordinary _ =>
          obtain ⟨rfl, rfl⟩ := List.cons.inj htext
          exact ⟨rfl, rfl⟩

/-- Every text but the empty one begins with a piece. -/
theorem exists_firstPiece (c : Char) (text : List Char) :
    ∃ piece rest, FirstPiece (c :: text) piece rest ∧ rest.length ≤ text.length := by
  by_cases h : ∃ place : Place, place.Enclosed ∧ place.opening <+: c :: text
  · obtain ⟨place, hplace, after, hafter⟩ := h
    have hlength : after.length ≤ text.length := by
      have hopening := List.length_pos_of_ne_nil hplace.opening_ne_nil
      have hboth := congrArg List.length hafter
      rw [List.length_append, List.length_cons] at hboth
      omega
    rw [← hafter]
    by_cases hcloses : ∃ content rest, place.Within content ∧
        after = content ++ (place.closing ++ rest)
    · obtain ⟨content, rest, hcontent, rfl⟩ := hcloses
      refine ⟨_, rest, .closed hplace hcontent, ?_⟩
      simp only [List.length_append] at hlength
      omega
    · refine ⟨_, [], .unclosed hplace fun inside rest hinside heq => ?_, Nat.zero_le _⟩
      exact hcloses ⟨inside, rest, hinside, heq⟩
  · exact ⟨_, text, .ordinary fun place hplace hbegins => h ⟨place, hplace, hbegins⟩, le_rfl⟩

theorem exists_cut (text : List Char) : ∃ pieces, Cut text pieces := by
  induction hlength : text.length using Nat.strong_induction_on generalizing text with
  | _ length ih =>
      cases text with
      | nil => exact ⟨[], .nil⟩
      | cons c text =>
          obtain ⟨piece, rest, hfirst, hrest⟩ := exists_firstPiece c text
          have hlt : rest.length < length := by
            rw [← hlength, List.length_cons]
            omega
          obtain ⟨pieces, hpieces⟩ := ih rest.length hlt rest rfl
          exact ⟨piece :: pieces, .cons hfirst hpieces⟩

theorem FirstPiece.ne_nil {text rest : List Char} {piece : Piece}
    (h : FirstPiece text piece rest) : text ≠ [] := by
  cases h with
  | closed hplace _ => simp [hplace.opening_ne_nil]
  | unclosed hplace _ => simp [hplace.opening_ne_nil]
  | ordinary _ => exact List.cons_ne_nil _ _

/-- A text is cut in one way only. -/
theorem Cut.unique {text : List Char} {pieces others : List Piece} (h : Cut text pieces)
    (hother : Cut text others) : others = pieces := by
  induction h generalizing others with
  | nil =>
      cases hother with
      | nil => rfl
      | cons hfirst _ => exact absurd rfl hfirst.ne_nil
  | cons hfirst hrest ih =>
      cases hother with
      | nil => exact absurd rfl hfirst.ne_nil
      | cons hfirst' hrest' =>
          obtain ⟨rfl, rfl⟩ := hfirst.unique hfirst'
          rw [ih hrest']

/-! ## The scan of a cut -/

/-- The scan of a text comes to the depth that its ordinary characters leave, unless a piece is left
open. -/
theorem Cut.depthFrom_eq {text : List Char} {pieces : List Piece} (h : Cut text pieces)
    (depth : Nat) :
    depthFrom .code depth text =
      if pieces.any Piece.leftOpen then none else some ((ordinaries pieces).foldl depthAfter depth) := by
  induction h generalizing depth with
  | nil => rw [depthFrom]; rfl
  | @cons text rest piece pieces hfirst hrest ih =>
      cases hfirst with
      | @closed place content _ hplace hcontent =>
          have hclosed : (Piece.enclosed place content true).leftOpen = false := by
            simp [Piece.leftOpen]
          rw [depthFrom_opening hplace, hplace.depthFrom_closing hcontent, ih, List.any_cons,
            hclosed, Bool.false_or]
          rfl
      | @unclosed place content hplace hcontent =>
          -- Nothing comes after a piece without its closing mark.
          have hnil : pieces = [] := Cut.nil.unique hrest
          have hopen : (Piece.enclosed place content false).leftOpen = place.leftOpen := by
            simp [Piece.leftOpen]
          rw [depthFrom_opening hplace, hnil, List.any_cons, hopen, List.any_nil, Bool.or_false]
          rcases hplace.closes_or_ends depth content with ⟨inside, rest, hinside, heq⟩ | heq
          · exact absurd heq (hcontent inside rest hinside)
          · exact heq
      | @ordinary c rest hc =>
          rw [depthFrom_ordinary hc, ih]
          rfl

/-! ## Depth and ends -/

/-- Characters that are no brackets leave the depth as it is. -/
theorem foldl_depthAfter_filter (chars : List Char) (depth : Nat) :
    (chars.filter fun c => isOpening c || isClosing c).foldl depthAfter depth =
      chars.foldl depthAfter depth := by
  induction chars generalizing depth with
  | nil => rfl
  | cons c chars ih =>
      rw [List.filter_cons]
      split
      · exact ih _
      · next h =>
          obtain ⟨hopening, hclosing⟩ := Bool.or_eq_false_iff.mp (Bool.eq_false_iff.mpr h)
          have hdepth : depthAfter depth c = depth := by simp [depthAfter, hopening, hclosing]
          rw [List.foldl_cons, hdepth]
          exact ih depth

theorem isClosing_of_isOpening {c : Char} (h : isOpening c = true) : isClosing c = false := by
  rcases isOpening_iff.mp h with rfl | rfl | rfl <;> rfl

/-- The depth that characters leave is the greatest surplus of opening brackets over closing ones in
any end of them, where all of them count with the depth before. -/
theorem foldl_depthAfter_le_iff (chars : List Char) (depth bound : Nat) :
    chars.foldl depthAfter depth ≤ bound ↔
      depth + chars.countP isOpening ≤ chars.countP isClosing + bound ∧
        ∀ suffix, suffix <:+ chars →
          suffix.countP isOpening ≤ suffix.countP isClosing + bound := by
  induction chars generalizing depth with
  | nil => simp [List.suffix_nil]
  | cons c chars ih =>
      simp only [List.foldl_cons, ih, List.suffix_cons_iff, or_imp, forall_and, forall_eq,
        List.countP_cons]
      have hself : (∀ suffix, suffix <:+ chars →
          suffix.countP isOpening ≤ suffix.countP isClosing + bound) →
            chars.countP isOpening ≤ chars.countP isClosing + bound :=
        fun h => h chars List.suffix_rfl
      rw [← and_assoc]
      refine and_congr_left fun hends => ?_
      have hchars := hself hends
      by_cases hopening : isOpening c = true
      · simp only [depthAfter, hopening, isClosing_of_isOpening hopening, if_true,
          Bool.false_eq_true, if_false]
        omega
      · by_cases hclosing : isClosing c = true
        · simp only [depthAfter, hopening, hclosing, if_true, Bool.false_eq_true, if_false]
          omega
        · simp only [depthAfter, hopening, hclosing, Bool.false_eq_true, if_false]
          omega

/-! ## Balance -/

/-- A text is balanced just if its cut leaves nothing open and every end of the brackets among its
ordinary characters closes at least as many as it opens. -/
theorem Cut.isBalanced_iff {text : List Char} {pieces : List Piece} (h : Cut text pieces) :
    isBalanced text = true ↔
      (∀ piece ∈ pieces, piece.leftOpen = false) ∧
        ∀ suffix, suffix <:+ brackets pieces →
          suffix.countP isOpening ≤ suffix.countP isClosing := by
  have hdepth : (ordinaries pieces).foldl depthAfter 0 = 0 ↔
      ∀ suffix, suffix <:+ brackets pieces →
        suffix.countP isOpening ≤ suffix.countP isClosing := by
    have hle := foldl_depthAfter_le_iff (brackets pieces) 0 0
    simp only [Nat.le_zero, Nat.zero_add, Nat.add_zero] at hle
    rw [← foldl_depthAfter_filter, ← brackets, hle, and_iff_right_iff_imp]
    exact fun hends => hends _ List.suffix_rfl
  rw [isBalanced, h.depthFrom_eq, ← hdepth]
  cases hopen : pieces.any Piece.leftOpen with
  | true =>
      obtain ⟨piece, hmem, hpiece⟩ := List.any_eq_true.mp hopen
      simp only [if_true]
      refine ⟨nofun, fun h => ?_⟩
      rw [h.1 piece hmem] at hpiece
      cases hpiece
  | false =>
      have hclosed : ∀ piece ∈ pieces, piece.leftOpen = false := fun piece hmem =>
        Bool.eq_false_iff.mpr (List.any_eq_false.mp hopen piece hmem)
      rw [and_iff_right hclosed]
      simp

/-- Every text is cut in one way, and it is balanced just if the cut leaves no literal and no block
comment open and every opening bracket among its ordinary characters has a closing one of its own
after it, whatever their kinds. -/
theorem isBalanced_iff_cut (text : List Char) :
    ∃ pieces, (∀ others, Cut text others ↔ others = pieces) ∧
      (isBalanced text = true ↔
        (∀ piece ∈ pieces, piece.leftOpen = false) ∧
          ∀ suffix, suffix <:+ brackets pieces →
            suffix.countP isOpening ≤ suffix.countP isClosing) := by
  obtain ⟨pieces, hpieces⟩ := exists_cut text
  exact ⟨pieces, fun others => ⟨hpieces.unique, fun heq => heq ▸ hpieces⟩, hpieces.isBalanced_iff⟩

/-- What a cut encloses is a literal of one of the three quotes or a comment. -/
theorem Cut.enclosed {text : List Char} {pieces : List Piece} (h : Cut text pieces) {place : Place}
    {content : List Char} {closed : Bool} (hmem : .enclosed place content closed ∈ pieces) :
    place.Enclosed := by
  induction h with
  | nil => exact absurd hmem List.not_mem_nil
  | cons hfirst _ ih =>
      rcases List.mem_cons.mp hmem with rfl | hmem
      · cases hfirst with
        | closed hplace _ => exact hplace
        | unclosed hplace _ => exact hplace
      · exact ih hmem

/-- The pieces of a cut are closed just if it has no literal without its second quote, which is one
of three, and no block comment without its closing mark. -/
theorem Cut.forall_closed_iff {text : List Char} {pieces : List Piece} (h : Cut text pieces) :
    (∀ piece ∈ pieces, piece.leftOpen = false) ↔
      (∀ quote ∈ ['"', '\'', '`'], ∀ content, .enclosed (.literal quote) content false ∉ pieces) ∧
        ∀ content, .enclosed .blockComment content false ∉ pieces := by
  constructor
  · intro hclosed
    refine ⟨fun quote _ content hmem => ?_, fun content hmem => ?_⟩
    · exact nomatch hclosed _ hmem
    · exact nomatch hclosed _ hmem
  · rintro ⟨hliterals, hcomments⟩ (⟨place, content, _ | _⟩ | c) hmem
    · cases h.enclosed hmem with
      | literal hquote =>
          refine absurd hmem (hliterals _ ?_ content)
          simpa using isQuote_iff.mp hquote
      | lineComment => rfl
      | blockComment => exact absurd hmem (hcomments content)
    · exact Bool.and_false _
    · rfl

/-- A text is balanced just if its cut leaves nothing open and every end of its ordinary brackets
closes at least as many as it opens, with the quotes and the brackets written out. -/
theorem Cut.isBalanced_iff_written {text : List Char} {pieces : List Piece} (h : Cut text pieces) :
    isBalanced text = true ↔
      ((∀ quote ∈ ['"', '\'', '`'], ∀ content,
          .enclosed (.literal quote) content false ∉ pieces) ∧
        ∀ content, .enclosed .blockComment content false ∉ pieces) ∧
      ∀ suffix,
        suffix <:+ (ordinaries pieces).filter (· ∈ ['(', '[', '\x7b', ')', ']', '\x7d']) →
          suffix.countP (· ∈ ['(', '[', '\x7b']) ≤ suffix.countP (· ∈ [')', ']', '\x7d']) := by
  have hopening : isOpening = fun c => decide (c ∈ ['(', '[', '\x7b']) := by
    funext c
    rw [Bool.eq_iff_iff, isOpening_iff]
    simp
  have hclosing : isClosing = fun c => decide (c ∈ [')', ']', '\x7d']) := by
    funext c
    rw [Bool.eq_iff_iff, isClosing_iff]
    simp
  have hbrackets : brackets pieces =
      (ordinaries pieces).filter (· ∈ ['(', '[', '\x7b', ')', ']', '\x7d']) := by
    refine congrArg (List.filter · (ordinaries pieces)) ?_
    funext c
    rw [Bool.eq_iff_iff, Bool.or_eq_true, isOpening_iff, isClosing_iff]
    simp [or_assoc]
  rw [h.isBalanced_iff, h.forall_closed_iff, hbrackets, hopening, hclosing]

/-- The slash of an opening mark does not close the comment, and a closing bracket before an opening
one does not close it. -/
example : isBalanced "/*/".toList = false ∧ isBalanced ")(".toList = false ∧
    isBalanced "(])".toList = true := by decide

end Cellbook.Cell
