import Cellbook.Proofs.Cell.Balance
import Cellbook.Proofs.Cell.LineEnds
import Cellbook.Proofs.Cell.Lines

/-!
# Splitting a cell

A last line that stands by itself is split off where what is above it is balanced
(`ofSource_lastLine`).  That is what was written above it, with line ends unified and without the
newline before the last line, and neither changes what is left open (`Relined.depthFrom_eq`).
-/

namespace Cellbook.Cell

open CellParts (unifyLineEnds trimEnd lastLine beforeLastLine beginsBlank)

/-! ## Line ends -/

/-- A text and what becomes of it where its line ends alone are changed: carriage returns before
newlines may be taken away, and a newline put at the end. -/
inductive Relined : List Char → List Char → Prop
  | nil : Relined [] []
  | newline : Relined [] ['\n']
  | keep (c : Char) {text other : List Char} (h : Relined text other) :
      Relined (c :: text) (c :: other)
  | dropReturn {text other : List Char} (h : Relined ('\n' :: text) other) :
      Relined ('\r' :: '\n' :: text) other

namespace Relined

variable {text other : List Char}

theorem unifyLineEnds (text : List Char) : Relined text (unifyLineEnds text) := by
  induction text with
  | nil => exact nil
  | cons c text ih =>
      rcases unifyLineEnds_cons_cases c text with heq | ⟨rfl, ⟨more, rfl⟩, heq⟩
      · exact heq ▸ ih.keep c
      · exact heq ▸ ih.dropReturn

theorem append_newline (text : List Char) : Relined text (text ++ ['\n']) := by
  induction text with
  | nil => exact newline
  | cons c text ih => exact ih.keep c

/-- The first character stays, but for a carriage return before a newline. -/
theorem cons_cases {c : Char} (h : Relined (c :: text) other) :
    (∃ rest, other = c :: rest ∧ Relined text rest) ∨
      c = '\r' ∧ (∃ more, text = '\n' :: more) ∧ Relined text other := by
  cases h with
  | keep c h => exact .inl ⟨_, rfl, h⟩
  | dropReturn h => exact .inr ⟨rfl, ⟨_, rfl⟩, h⟩

theorem exists_cons {c : Char} (hc : c ≠ '\r') (h : Relined (c :: text) other) :
    ∃ rest, other = c :: rest ∧ Relined text rest :=
  h.cons_cases.resolve_right fun hreturn => hc hreturn.1

/-- Nothing but a newline comes first that did not before. -/
theorem exists_cons_of_cons {c : Char} {rest : List Char} (hc : c ≠ '\n')
    (h : Relined text (c :: rest)) : ∃ more, text = c :: more := by
  cases h with
  | newline => exact absurd rfl hc
  | keep c h => exact ⟨_, rfl⟩
  | dropReturn h =>
      obtain ⟨rest, heq, -⟩ := h.exists_cons (by decide)
      exact absurd (List.cons.inj heq).1 hc

end Relined

/-- The quotes of literals are no other characters. -/
theorem Place.ne_quote {quote c : Char}
    (hplace : Place.literal quote = .code ∨ (Place.literal quote).Enclosed)
    (hc : isQuote c = false) : c ≠ quote := by
  rintro rfl
  rcases hplace with hplace | hplace
  · cases hplace
  · cases hplace with
    | literal hquote => exact Bool.false_ne_true (hc.symm.trans hquote)

/-- A character that may end a literal leaves the scan in the literal or outside. -/
theorem Place.code_or_enclosed_ite {place : Place} (h : place = .code ∨ place.Enclosed)
    (ends : Bool) :
    (if ends then .code else place) = Place.code ∨ (if ends then .code else place).Enclosed := by
  cases ends
  · exact h
  · exact .inl rfl

/-- Changes of line ends do not change what is left open: a carriage return before a newline is
passed over wherever it stands, and a newline at the end closes nothing but a line comment. -/
theorem Relined.depthFrom_eq {text other : List Char} (h : Relined text other) {place : Place}
    (hplace : place = .code ∨ place.Enclosed) (depth : Nat) :
    depthFrom place depth other = depthFrom place depth text := by
  fun_induction depthFrom place depth text generalizing other with
  | case1 depth => cases h <;> rfl
  | case2 depth rest ih =>
      obtain ⟨tail, rfl, htail⟩ := h.exists_cons (by decide)
      obtain ⟨more, rfl, hmore⟩ := htail.exists_cons (by decide)
      rw [depthFrom]
      exact ih hmore (.inr .lineComment)
  | case3 depth rest ih =>
      obtain ⟨tail, rfl, htail⟩ := h.exists_cons (by decide)
      obtain ⟨more, rfl, hmore⟩ := htail.exists_cons (by decide)
      rw [depthFrom]
      exact ih hmore (.inr .blockComment)
  | case4 depth c rest _ _ hquote ih =>
      have hc : c ≠ '\r' := by
        rintro rfl
        exact absurd hquote (by decide)
      obtain ⟨tail, rfl, htail⟩ := h.exists_cons hc
      rw [depthFrom_quote hquote]
      exact ih htail (.inr (.literal hquote))
  | case5 depth c rest hline hblock hquote ih =>
      rcases h.cons_cases with ⟨tail, rfl, htail⟩ | ⟨rfl, -, hrest⟩
      · rw [depthFrom, if_neg hquote]
        · exact ih htail (.inl rfl)
        · rintro more rfl rfl
          obtain ⟨more', rfl⟩ := htail.exists_cons_of_cons (by decide)
          exact hline more' rfl rfl
        · rintro more rfl rfl
          obtain ⟨more', rfl⟩ := htail.exists_cons_of_cons (by decide)
          exact hblock more' rfl rfl
      · exact ih hrest (.inl rfl)
  | case6 quote depth =>
      cases h with
      | nil => rw [depthFrom]
      | newline =>
          rw [depthFrom_literal_plain (by decide) (Place.ne_quote hplace (by decide)), depthFrom]
  | case7 quote depth =>
      obtain ⟨tail, rfl, htail⟩ := h.exists_cons (by decide)
      cases htail <;> simp [depthFrom]
  | case8 quote depth c rest ih =>
      obtain ⟨tail, rfl, htail⟩ := h.exists_cons (by decide)
      rcases htail.cons_cases with ⟨more, rfl, hmore⟩ | ⟨rfl, ⟨more, rfl⟩, hrest⟩
      · rw [depthFrom]
        exact ih hmore hplace
      · -- The backslash takes the newline along in place of the carriage return.
        rw [← ih hrest hplace]
        obtain ⟨more, rfl, -⟩ := hrest.exists_cons (by decide)
        rw [depthFrom, depthFrom_literal_plain (by decide) (Place.ne_quote hplace (by decide))]
  | case9 quote depth c rest hlast hescape ih =>
      have hc : c ≠ '\\' := by
        intro hc
        cases rest with
        | nil => exact hlast hc rfl
        | cons d rest => exact hescape d rest hc rfl
      rcases h.cons_cases with ⟨tail, rfl, htail⟩ | ⟨rfl, -, hrest⟩
      · rw [depthFrom]
        · exact ih htail (Place.code_or_enclosed_ite hplace _)
        · exact fun h => absurd h hc
        · exact fun _ _ h => absurd h hc
      · have hquote : ('\r' == quote) = false :=
          beq_eq_false_iff_ne.mpr (Place.ne_quote hplace (by decide))
        rw [hquote] at ih ⊢
        exact ih hrest hplace
  | case10 depth => cases h <;> rfl
  | case11 depth c rest ih =>
      rcases h.cons_cases with ⟨tail, rfl, htail⟩ | ⟨rfl, -, hrest⟩
      · rw [depthFrom_lineComment]
        exact ih htail (Place.code_or_enclosed_ite hplace _)
      · exact ih hrest hplace
  | case12 depth => cases h <;> rfl
  | case13 depth rest ih =>
      obtain ⟨tail, rfl, htail⟩ := h.exists_cons (by decide)
      obtain ⟨more, rfl, hmore⟩ := htail.exists_cons (by decide)
      rw [depthFrom]
      exact ih hmore (.inl rfl)
  | case14 depth c rest hclosing ih =>
      rcases h.cons_cases with ⟨tail, rfl, htail⟩ | ⟨rfl, -, hrest⟩
      · rw [depthFrom]
        · exact ih htail hplace
        · rintro more rfl rfl
          obtain ⟨more', rfl⟩ := htail.exists_cons_of_cons (by decide)
          exact hclosing more' rfl rfl
      · exact ih hrest hplace

/-! ## The last line -/

/-- What stands above the last line of a source text, with line ends unified. -/
def above (body : List Char) : List Char := beforeLastLine (unifyLineEnds (body ++ ['\n']))

theorem unifyLineEnds_newline (body : List Char) :
    unifyLineEnds (body ++ ['\n']) = above body ++ ['\n'] := by
  obtain ⟨lines, heq⟩ := exists_unifyLineEnds_newline body
  have habove : beforeLastLine (lines ++ ['\n']) = lines :=
    beforeLastLine_append lines List.not_mem_nil
  rw [above, heq, habove]

/-- What stands above the last line is balanced as it was written. -/
theorem isBalanced_above (body : List Char) : isBalanced (above body) = isBalanced body := by
  have hdepth : depthFrom .code 0 (above body) = depthFrom .code 0 body := by
    calc depthFrom .code 0 (above body)
        = depthFrom .code 0 (above body ++ ['\n']) :=
          ((Relined.append_newline (above body)).depthFrom_eq (.inl rfl) 0).symm
      _ = depthFrom .code 0 (unifyLineEnds (body ++ ['\n'])) := by rw [unifyLineEnds_newline]
      _ = depthFrom .code 0 (body ++ ['\n']) :=
          (Relined.unifyLineEnds (body ++ ['\n'])).depthFrom_eq (.inl rfl) 0
      _ = depthFrom .code 0 body := (Relined.append_newline body).depthFrom_eq (.inl rfl) 0
  rw [isBalanced, isBalanced, hdepth]

/-- Tidying keeps what is above a last line that is not blank. -/
theorem tidy_lastLine (body : List Char) {last : List Char} (hline : '\n' ∉ last)
    (hblank : ¬ ∀ c ∈ last, Text.isWhiteSpace c = true) :
    CellParts.tidy (body ++ '\n' :: last) = above body ++ '\n' :: trimEnd last := by
  calc CellParts.tidy (body ++ '\n' :: last)
      = trimEnd (unifyLineEnds (body ++ ['\n']) ++ unifyLineEnds last) := by
        rw [CellParts.tidy, unifyLineEnds_append]
    _ = trimEnd ((above body ++ ['\n']) ++ last) := by
        rw [unifyLineEnds_newline, (unified_of_notMem hline).unifyLineEnds_eq]
    _ = above body ++ '\n' :: trimEnd last := by
        rw [trimEnd_append _ hblank, List.append_assoc]
        rfl

/-- A last line that begins with a character other than white space is the tail of a cell just if
what is above it is balanced. -/
theorem ofSource_lastLine (body : String) {last : String} (hline : '\n' ∉ last.toList)
    (hblank : ¬ ∀ c ∈ last.toList, Text.isWhiteSpace c = true)
    (hbegins : beginsBlank last.toList = false) :
    CellParts.ofSource (body ++ "\n" ++ last) =
      if isBalanced body.toList then
        ⟨if (above body.toList).all Text.isWhiteSpace then none
          else some (String.ofList (above body.toList)),
          some (String.ofList (trimEnd last.toList))⟩
      else ⟨some (String.ofList (above body.toList ++ '\n' :: trimEnd last.toList)), none⟩ := by
  have hsource : (body ++ "\n" ++ last).toList = body.toList ++ '\n' :: last.toList := by
    simp
  have htrimmed : '\n' ∉ trimEnd last.toList := fun h => hline (mem_of_mem_trimEnd h)
  have hkept : beginsBlank (trimEnd last.toList) = false := by
    cases hlast : last.toList with
    | nil => rfl
    | cons c text =>
        rw [hlast] at hbegins
        have hc : Text.isWhiteSpace c = false := hbegins
        rw [trimEnd_cons hc]
        exact hbegins
  have hne : (above body.toList ++ '\n' :: trimEnd last.toList).isEmpty = false := by simp
  rw [CellParts.ofSource, hsource, tidy_lastLine body.toList hline hblank, CellParts.ofTidy, hne,
    beforeLastLine_append _ htrimmed, lastLine_append _ htrimmed, hkept]
  dsimp only
  rw [isBalanced_above]
  cases isBalanced body.toList
  · rfl
  · rfl

end Cellbook.Cell
