import Cellbook.Proofs.Cell.Balance
import Cellbook.Proofs.Script.Tokens

/-!
# Quotations and comments

Where the comments and quotations of a script end.

* A line comment without a carriage return in it ends with its line, and a block comment that opens
  no other ends with the first closing mark.
* What follows a double or a single quote is literals of that quote side by side, each up to a quote
  that no backslash escapes (`Literals`).
* What follows a backtick is taken as it stands up to the next backtick or to an embedded block
  (`Template`).
-/

namespace Cellbook.Script

open Cellbook.Cell (isQuote Unquoted)

/-! ## Comments -/

theorem notMem_dropLast_of_cons {c d : Char} {content : List Char}
    (h : c ∉ (d :: content).dropLast) : c ∉ content.dropLast := by
  cases content with
  | nil => exact List.not_mem_nil
  | cons e content =>
      rw [List.dropLast_cons_cons] at h
      exact List.not_mem_of_not_mem_cons h

/-- A line comment ends after the next newline, or with the text. -/
theorem rest_skipLine {content ending : List Char} (hline : '\n' ∉ content)
    (hreturn : '\r' ∉ content.dropLast) (hending : ∀ c ∈ ending.head?, c = '\n')
    (position : Position) : (skipLine position (content ++ ending)).rest = ending.tail := by
  induction content generalizing position with
  | nil =>
      cases ending with
      | nil => rfl
      | cons c ending =>
          obtain rfl := hending c rfl
          rfl
  | cons c content ih =>
      have hc : c ≠ '\n' := (List.ne_of_not_mem_cons hline).symm
      rw [List.cons_append, skipLine, if_neg (by simpa using hc)]
      split
      · next hcr =>
          -- The newline after the carriage return is taken along.
          obtain rfl := beq_iff_eq.mp hcr
          cases content with
          | nil => cases ending <;> simp_all
          | cons d content => simp at hreturn
      · exact ih (List.not_mem_of_not_mem_cons hline) (notMem_dropLast_of_cons hreturn) _

/-- A block comment that opens no other ends with the first closing mark. -/
theorem rest_skipBlockComment {content : List Char} (hclosing : ¬ ['*', '/'] <:+: content)
    (hopening : ¬ ['/', '*'] <:+: content ++ ['*']) (position : Position) (rest : List Char) :
    (skipBlockComment 1 position (content ++ '*' :: '/' :: rest)).rest = rest := by
  induction content generalizing position with
  | nil => simp [skipBlockComment]
  | cons c content ih =>
      have hinner : (skipBlockComment 1 (position.after c) (content ++ '*' :: '/' :: rest)).rest =
          rest :=
        ih (fun h => hclosing (h.trans (List.suffix_cons c content).isInfix))
          (fun h => hopening (h.trans (List.suffix_cons c (content ++ ['*'])).isInfix)) _
      cases content with
      | nil =>
          have hc : c ≠ '/' := by
            rintro rfl
            exact hopening ⟨[], [], rfl⟩
          simp [skipBlockComment, hc] at hinner ⊢
      | cons d content =>
          have hstar : ¬ (c = '*' ∧ d = '/') := by
            rintro ⟨rfl, rfl⟩
            exact hclosing ⟨[], content, rfl⟩
          have hslash : ¬ (c = '/' ∧ d = '*') := by
            rintro ⟨rfl, rfl⟩
            exact hopening ⟨[], content ++ ['*'], rfl⟩
          rw [List.cons_append, List.cons_append, skipBlockComment, if_neg (by simpa using hstar),
            if_neg (by simpa using hslash)]
          exact hinner

/-! ## Literals -/

/-- Whether what follows an opening quote is one literal or several side by side, and `rest` comes
after them. -/
inductive Literals (quote : Char) : List Char → List Char → Prop
  | last {content rest : List Char} (h : Unquoted quote content) :
      Literals quote (content ++ quote :: rest) rest
  | more {content text rest : List Char} (h : Unquoted quote content)
      (hmore : Literals quote text rest) : Literals quote (content ++ quote :: quote :: text) rest

namespace Literals

variable {quote c : Char} {text rest : List Char}

theorem plain (hescape : c ≠ '\\') (hquote : c ≠ quote) (h : Literals quote text rest) :
    Literals quote (c :: text) rest := by
  cases h with
  | last h => exact .last (h.plain hescape hquote)
  | more h hmore => exact .more (h.plain hescape hquote) hmore

theorem escaped (c : Char) (h : Literals quote text rest) :
    Literals quote ('\\' :: c :: text) rest := by
  cases h with
  | last h => exact .last h.escaped
  | more h hmore => exact .more h.escaped hmore

/-- A backslash at the beginning of a literal takes the character after it along. -/
theorem exists_of_escaped {content : List Char} (hquote : quote ≠ '\\') (h : Unquoted quote content)
    (heq : '\\' :: c :: text = content ++ quote :: rest) :
    ∃ inner, Unquoted quote inner ∧ text = inner ++ quote :: rest := by
  cases h with
  | nil => exact absurd (List.cons.inj heq).1.symm hquote
  | plain hescape _ _ => exact absurd (List.cons.inj heq).1.symm hescape
  | escaped h => exact ⟨_, h, (List.cons.inj (List.cons.inj heq).2).2⟩

theorem of_escaped (hquote : quote ≠ '\\') (h : Literals quote ('\\' :: c :: text) rest) :
    Literals quote text rest := by
  generalize htext : '\\' :: c :: text = text' at h
  cases h with
  | last h =>
      obtain ⟨inner, hinner, rfl⟩ := exists_of_escaped hquote h htext
      exact .last hinner
  | more h hmore =>
      obtain ⟨inner, hinner, rfl⟩ := exists_of_escaped hquote h htext
      exact .more hinner hmore

end Literals

/-- What the state of the scan tells of the text that is left. -/
def Quoting.Leaves (quote : Char) (text rest : List Char) : Quoting → Prop
  | plain | digits _ _ _ | continued _ => Literals quote text rest
  | escaped => Literals quote ('\\' :: text) rest
  | doubled => ∀ text', text = quote :: text' → Literals quote text' rest

/-- Whether the next character stands in a literal, not right after a backslash or a quote. -/
def Quoting.Inside : Quoting → Prop
  | plain | digits _ _ _ | continued _ => True
  | escaped | doubled => False

theorem Quoting.Inside.literals {quote : Char} {text rest : List Char} {state : Quoting}
    (h : state.Inside) (hleaves : state.Leaves quote text rest) : Literals quote text rest := by
  cases state with
  | plain => exact hleaves
  | digits seen missing number => exact hleaves
  | continued column => exact hleaves
  | escaped => cases h
  | doubled => cases h

/-- Whether the next character is taken as itself. -/
def Quoting.TakesAny : Quoting → Prop
  | plain | continued _ => True
  | _ => False

variable {quote : Char} {opening : Option Position} {taken : List Char} {state : Quoting}
  {position : Position} {text : List Char} {value : String} {embeds : Bool} {after : Cursor}

/-- A scan that takes the next character as itself goes on in one of three ways, or ends with it. -/
theorem scanQuoted_cases {c : Char} (hquote : quote = '"' ∨ quote = '\'') (hstate : state.TakesAny)
    (h : scanQuoted quote opening taken state position (c :: text) = .closed value embeds after) :
    (c ≠ '\\' ∧ c ≠ quote ∧ ∃ taken state position, state.Inside ∧
        scanQuoted quote opening taken state position text = .closed value embeds after) ∨
      (c = '\\' ∧ ∃ taken position,
        scanQuoted quote opening taken .escaped position text = .closed value embeds after) ∨
      (c = quote ∧ text.head? = some quote ∧ ∃ taken position,
        scanQuoted quote opening taken .doubled position text = .closed value embeds after) ∨
      (c = quote ∧ embeds = false ∧ after.rest = text) := by
  have hbacktick : (quote == '`') = false := by rcases hquote with rfl | rfl <;> rfl
  have hnot : (quote != '`') = true := by rw [bne, hbacktick, Bool.not_false]
  have hreturn : (c == '\r' && text.head? == some '\n') = true → c ≠ '\\' ∧ c ≠ quote := by
    intro h
    rw [beq_iff_eq.mp (Bool.and_eq_true_iff.mp h).1]
    rcases hquote with rfl | rfl <;> decide
  have hother : ¬ (c == '\\') = true → ¬ (c == quote) = true → c ≠ '\\' ∧ c ≠ quote :=
    fun hescape hc => ⟨fun h => hescape (beq_iff_eq.mpr h), fun h => hc (beq_iff_eq.mpr h)⟩
  cases state with
  | plain =>
      unfold scanQuoted at h
      simp only [hbacktick, hnot, Bool.false_and, Bool.and_true, Bool.false_eq_true, if_false] at h
      split_ifs at h with hcr hescape hc hdoubled hnewline
      · exact .inl ⟨(hreturn hcr).1, (hreturn hcr).2, _, .plain, _, trivial, h⟩
      · exact .inr (.inl ⟨beq_iff_eq.mp hescape, _, _, h⟩)
      · exact .inr (.inr (.inl ⟨beq_iff_eq.mp hc, beq_iff_eq.mp hdoubled, _, _, h⟩))
      · obtain ⟨-, rfl, rfl⟩ := Quotation.closed.inj h
        exact .inr (.inr (.inr ⟨beq_iff_eq.mp hc, rfl, rfl⟩))
      · exact .inl ⟨(hother hescape hc).1, (hother hescape hc).2, _, .plain, _, trivial, h⟩
  | continued column =>
      unfold scanQuoted at h
      simp only [hbacktick, hnot, Bool.false_and, Bool.and_true, Bool.false_eq_true, if_false] at h
      split_ifs at h with hcr hescape hc hdoubled hnewline hblank
      · exact .inl ⟨(hreturn hcr).1, (hreturn hcr).2, _, .continued column, _, trivial, h⟩
      · exact .inr (.inl ⟨beq_iff_eq.mp hescape, _, _, h⟩)
      · exact .inr (.inr (.inl ⟨beq_iff_eq.mp hc, beq_iff_eq.mp hdoubled, _, _, h⟩))
      · obtain ⟨-, rfl, rfl⟩ := Quotation.closed.inj h
        exact .inr (.inr (.inr ⟨beq_iff_eq.mp hc, rfl, rfl⟩))
      · exact .inl ⟨(hother hescape hc).1, (hother hescape hc).2, _, .continued column, _, trivial, h⟩
      · exact .inl ⟨(hother hescape hc).1, (hother hescape hc).2, _, .plain, _, trivial, h⟩
  | escaped => cases hstate
  | digits seen missing number => cases hstate
  | doubled => cases hstate

/-- A scan after a backslash takes the next character along, unless that is a carriage return before
a newline, in front of which the backslash stays. -/
theorem scanQuoted_escaped_cases {c : Char}
    (h : scanQuoted quote opening taken .escaped position (c :: text) =
      .closed value embeds after) :
    (∃ taken state position, state.Inside ∧
        scanQuoted quote opening taken state position text = .closed value embeds after) ∨
      text.head? = some '\n' ∧ ∃ taken position,
        scanQuoted quote opening taken .escaped position text = .closed value embeds after := by
  unfold scanQuoted at h
  dsimp only at h
  split at h
  · exact .inl ⟨_, .plain, _, trivial, h⟩
  · exact .inl ⟨_, .digits _ _ _, _, trivial, h⟩
  · split_ifs at h with hc hreturn
    · exact .inl ⟨_, .plain, _, trivial, h⟩
    · exact .inr ⟨beq_iff_eq.mp (Bool.and_eq_true_iff.mp hreturn).2, _, _, h⟩
    · exact .inl ⟨_, .continued _, _, trivial, h⟩

/-- A scan for a digit of an escape goes on after the digit. -/
theorem scanQuoted_digits_cases {c : Char} {seen : List Char} {missing number : Nat}
    (h : scanQuoted quote opening taken (.digits seen missing number) position (c :: text) =
      .closed value embeds after) :
    IsWordlike c ∧ ∃ taken state position, state.Inside ∧
      scanQuoted quote opening taken state position text = .closed value embeds after := by
  unfold scanQuoted at h
  dsimp only at h
  split at h
  · cases h
  · next digit hvalue =>
      refine ⟨.inl (isAlphanum_of_hexValue? (Option.isSome_of_eq_some hvalue)), ?_⟩
      split_ifs at h
      · split at h
        · exact ⟨_, .plain, _, trivial, h⟩
        · cases h
      · exact ⟨_, .digits _ _ _, _, trivial, h⟩

/-- A scan after a double or a single quote that ends without a fault has come past literals. -/
theorem scanQuoted_literals (hquote : quote = '"' ∨ quote = '\'')
    (h : scanQuoted quote opening taken state position text = .closed value embeds after) :
    embeds = false ∧ state.Leaves quote text after.rest := by
  have hescape : quote ≠ '\\' := by rcases hquote with rfl | rfl <;> decide
  have hnewline : '\n' ≠ quote := by rcases hquote with rfl | rfl <;> decide
  have hword {c : Char} (hc : IsWordlike c) : c ≠ '\\' ∧ c ≠ quote := by
    constructor
    · rintro rfl
      exact absurd hc (by decide)
    · rintro rfl
      rcases hquote with rfl | rfl <;> exact absurd hc (by decide)
  induction text generalizing taken state position with
  | nil => cases state <;> simp [scanQuoted] at h
  | cons c text ih =>
      have hany (hstate : state.TakesAny) : embeds = false ∧ Literals quote (c :: text) after.rest := by
        rcases scanQuoted_cases hquote hstate h with ⟨hc, hne, taken, state, position, hstate, h⟩ |
          ⟨rfl, taken, position, h⟩ | ⟨rfl, hhead, taken, position, h⟩ | ⟨rfl, hembeds, hrest⟩
        · obtain ⟨hembeds, hleaves⟩ := ih h
          exact ⟨hembeds, .plain hc hne (hstate.literals hleaves)⟩
        · exact ih h
        · obtain ⟨hembeds, hleaves⟩ := ih h
          obtain ⟨text', rfl⟩ := List.head?_eq_some_iff.mp hhead
          exact ⟨hembeds, .more .nil (hleaves text' rfl)⟩
        · exact ⟨hembeds, hrest ▸ .last .nil⟩
      cases state with
      | plain => exact hany trivial
      | continued column => exact hany trivial
      | escaped =>
          rcases scanQuoted_escaped_cases h with
            ⟨taken, state, position, hstate, h⟩ | ⟨hhead, taken, position, h⟩
          · obtain ⟨hembeds, hleaves⟩ := ih h
            exact ⟨hembeds, .escaped c (hstate.literals hleaves)⟩
          · obtain ⟨hembeds, hleaves⟩ := ih h
            obtain ⟨text', rfl⟩ := List.head?_eq_some_iff.mp hhead
            have hrest : Literals quote text' after.rest := .of_escaped hescape hleaves
            exact ⟨hembeds, .escaped c (hrest.plain (by decide) hnewline)⟩
      | digits seen missing number =>
          obtain ⟨hc, taken, state, position, hstate, h⟩ := scanQuoted_digits_cases h
          obtain ⟨hembeds, hleaves⟩ := ih h
          exact ⟨hembeds, .plain (hword hc).1 (hword hc).2 (hstate.literals hleaves)⟩
      | doubled =>
          unfold scanQuoted at h
          obtain ⟨hembeds, hleaves⟩ := ih h
          refine ⟨hembeds, ?_⟩
          intro text' htext
          exact (List.cons.inj htext).2 ▸ hleaves

/-! ## Templates -/

/-- Code without quotes, comments and braces. -/
structure Bare (code : List Char) : Prop where
  quote : ∀ c ∈ code, isQuote c = false
  comment : ¬ ['/', '/'] <:+: code ∧ ¬ ['/', '*'] <:+: code
  brace : '\x7b' ∉ code ∧ '\x7d' ∉ code

theorem Bare.of_append (front : List Char) {code : List Char} (h : Bare (front ++ code)) : Bare code where
  quote := fun c hmem => h.quote c (List.mem_append_right front hmem)
  comment := by
    have hcode : code <:+: front ++ code := (List.suffix_append front code).isInfix
    exact ⟨fun hline => h.comment.1 (hline.trans hcode), fun hblock => h.comment.2 (hblock.trans hcode)⟩
  brace := ⟨fun hmem => h.brace.1 (List.mem_append_right front hmem),
    fun hmem => h.brace.2 (List.mem_append_right front hmem)⟩

/-- The code of an embedded block whose brackets close each other. -/
structure Embedded (code : List Char) : Prop extends Bare code where
  balanced (depth : Nat) : code.foldl Cell.depthAfter depth = depth

/-- The content of a backtick literal, with embedded blocks; no backtick stands in it, after a
backslash or not. -/
inductive Template : List Char → Prop
  | nil : Template []
  | plain {c : Char} {content : List Char} (hquote : c ≠ '`')
      (hblock : c = '$' → content.head? ≠ some '\x7b') (h : Template content) :
      Template (c :: content)
  | block {code content : List Char} (hcode : Embedded code) (h : Template content) :
      Template ('$' :: '\x7b' :: (code ++ '\x7d' :: content))

/-- Whether a text is empty or begins with a backtick. -/
def EndsTemplate (ending : List Char) : Prop := ∀ c ∈ ending.head?, c = '`'

theorem head?_append_ne {content ending : List Char} {c : Char} (hending : EndsTemplate ending)
    (hc : c ≠ '`') (h : content.head? ≠ some c) : (content ++ ending).head? ≠ some c := by
  cases content with
  | nil => exact fun hhead => hc (hending c hhead)
  | cons d content => exact h

/-- The scan after a backtick comes past a template to its end, or to the first block in it. -/
theorem scanQuoted_template {content : List Char} (h : Template content) {ending : List Char}
    (hending : EndsTemplate ending) (opening : Option Position) (taken : List Char)
    (position : Position) :
    (∃ taken' position', scanQuoted '`' opening taken .plain position (content ++ ending) =
        scanQuoted '`' opening taken' .plain position' ending) ∨
      ∃ value position' code content', Embedded code ∧ Template content' ∧
        code.length + content'.length + 3 ≤ content.length ∧
        scanQuoted '`' opening taken .plain position (content ++ ending) =
          .closed value true ⟨'\x7b' :: (code ++ '\x7d' :: (content' ++ ending)), position'⟩ := by
  induction h generalizing taken position with
  | nil => exact .inl ⟨taken, position, rfl⟩
  | @plain c content hquote hblock h ih =>
      have hstep : ∃ taken', scanQuoted '`' opening taken .plain position (c :: content ++ ending) =
          scanQuoted '`' opening taken' .plain (position.after c) (content ++ ending) := by
        have hhead : ('`' == '`' && c == '$' &&
            (content ++ ending).head? == some '\x7b') = false := by
          rw [Bool.eq_false_iff]
          intro h
          obtain ⟨hc, hbrace⟩ := Bool.and_eq_true_iff.mp h
          have hdollar := beq_iff_eq.mp (Bool.and_eq_true_iff.mp hc).2
          exact head?_append_ne hending (by decide) (hblock hdollar) (beq_iff_eq.mp hbrace)
        have hbacktick : (c == '`') = false := by simpa using hquote
        rw [List.cons_append, scanQuoted]
        simp only [hhead, hbacktick, bne_self_eq_false, Bool.and_false, Bool.false_eq_true, if_false]
        split
        · exact ⟨taken, rfl⟩
        · exact ⟨c :: taken, rfl⟩
      obtain ⟨taken', hstep⟩ := hstep
      rw [hstep]
      rcases ih taken' (position.after c) with hends |
        ⟨value, position', code, content', hcode, hcontent', hlength, heq⟩
      · exact .inl hends
      · exact .inr ⟨value, position', code, content', hcode, hcontent',
          hlength.trans (Nat.le_succ _), heq⟩
  | @block code content hcode h ih =>
      refine .inr ⟨String.ofList taken.reverse, position.after '$', code, content, hcode, h, ?_, ?_⟩
      · simp only [List.length_cons, List.length_append]
        omega
      · rw [List.cons_append, List.cons_append, scanQuoted, List.append_assoc, List.cons_append]
        simp

theorem Template.of_cons {c : Char} {content : List Char} (h : Template (c :: content))
    (hc : c ≠ '$') : Template content := by
  cases h with
  | plain _ _ h => exact h
  | block _ _ => exact absurd rfl hc

theorem exists_cons_of_append {content ending rest : List Char} {c : Char}
    (hending : EndsTemplate ending) (hc : c ≠ '`') (h : content ++ ending = c :: rest) :
    ∃ content', content = c :: content' ∧ content' ++ ending = rest := by
  cases content with
  | nil =>
      obtain rfl : ending = c :: rest := h
      exact absurd (hending c rfl) hc
  | cons d content =>
      obtain ⟨rfl, heq⟩ := List.cons.inj h
      exact ⟨content, rfl, heq⟩

/-- Without the new line in front a template is a template. -/
theorem rest_insideBacktick {content : List Char} (h : Template content) {ending : List Char}
    (hending : EndsTemplate ending) {cursor : Cursor} (hrest : cursor.rest = content ++ ending) :
    ∃ content', Template content' ∧ content'.length ≤ content.length ∧
      (insideBacktick cursor).rest = content' ++ ending := by
  unfold insideBacktick
  split
  · next rest heq =>
      obtain ⟨content, rfl, heq⟩ := exists_cons_of_append hending (by decide) (hrest.symm.trans heq)
      obtain ⟨content, rfl, rfl⟩ := exists_cons_of_append hending (by decide) heq
      refine ⟨content, (h.of_cons (by decide)).of_cons (by decide), ?_, rfl⟩
      simp only [List.length_cons]
      omega
  · next rest _ heq =>
      obtain ⟨content, rfl, rfl⟩ := exists_cons_of_append hending (by decide) (hrest.symm.trans heq)
      exact ⟨content, h.of_cons (by decide), Nat.le_succ _, rfl⟩
  · next rest heq =>
      obtain ⟨content, rfl, rfl⟩ := exists_cons_of_append hending (by decide) (hrest.symm.trans heq)
      exact ⟨content, h.of_cons (by decide), Nat.le_succ _, rfl⟩
  · exact ⟨content, h, Nat.le_refl _, hrest⟩

end Cellbook.Script
