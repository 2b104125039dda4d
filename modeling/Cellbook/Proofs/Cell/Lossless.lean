import Cellbook.Proofs.Cell.LineEnds
import Cellbook.Proofs.Cell.Lines
import Cellbook.Text.Cut

/-!
# Splitting loses nothing

The parts of a cell are its text, with line ends unified and no white space at the end, cut once or
not at all: before the last line (`Parted`).  The cut takes away a newline, and what is above it
where that is blank; all else is in one of the parts and in one place (`ofSource_lossless`).  A cell
put together again from its parts has the same parts, unless there were two carriage returns before a
newline: one of them is left then, and unified in its turn.
-/

namespace Cellbook

/-- The parts of a cell put together again, with a newline between them. -/
def CellParts.joined : CellParts → String
  | ⟨some body, some tail⟩ => body ++ "\n" ++ tail
  | ⟨some part, none⟩ | ⟨none, some part⟩ => part
  | ⟨none, none⟩ => ""

namespace Cell

open CellParts (ofSource ofTidy tidy unifyLineEnds trimEnd lastLine beforeLastLine beginsBlank)

/-! ## The cut -/

/-- A line that can be a tail. -/
structure StandsAlone (line : List Char) : Prop where
  ne_nil : line ≠ []
  newline_notMem : '\n' ∉ line
  begins : beginsBlank line = false
  ends : Trimmed line

/-- A text that does not end with white space, and how it is parted. -/
inductive Parted : List Char → CellParts → Prop
  | blank : Parted [] .empty
  | whole {text : List Char} (h : text ≠ []) : Parted text ⟨some (String.ofList text), none⟩
  | line {last : List Char} (h : StandsAlone last) : Parted last ⟨none, some (String.ofList last)⟩
  | belowBlank {front last : List Char} (h : StandsAlone last) (hfront : Blank front) :
      Parted (front ++ '\n' :: last) ⟨none, some (String.ofList last)⟩
  | below {front last : List Char} (h : StandsAlone last) (hfront : ¬ Blank front) :
      Parted (front ++ '\n' :: last) ⟨some (String.ofList front), some (String.ofList last)⟩

/-- Below a newline, a text that does not end with white space goes on. -/
theorem Trimmed.of_append {front last : List Char} (h : Trimmed (front ++ '\n' :: last)) :
    last ≠ [] ∧ Trimmed last := by
  have hlast : last ≠ [] := by
    rintro rfl
    have hnewline : Text.isWhiteSpace '\n' = false := h '\n' (by simp)
    exact absurd hnewline (by decide)
  refine ⟨hlast, fun c hc => h c ?_⟩
  rw [List.getLast?_append_cons, List.getLast?_cons_of_ne_nil hlast]
  exact hc

theorem ofTidy_of_standsAlone {line : List Char} (h : StandsAlone line) :
    ofTidy line = ⟨none, some (String.ofList line)⟩ := by
  have hne : line.isEmpty = false := List.isEmpty_eq_false_iff.mpr h.ne_nil
  rw [ofTidy, hne, lastLine_of_notMem h.newline_notMem, beforeLastLine_of_notMem h.newline_notMem,
    h.begins]
  rfl

theorem parted_ofTidy {text : List Char} (h : Trimmed text) : Parted text (ofTidy text) := by
  by_cases hnil : text = []
  · subst hnil
    exact .blank
  have hne : text.isEmpty = false := List.isEmpty_eq_false_iff.mpr hnil
  by_cases hwhole : (beginsBlank (lastLine text) || !isBalanced (beforeLastLine text)) = true
  · have hparts : ofTidy text = ⟨some (String.ofList text), none⟩ := by
      rw [ofTidy, hne]
      exact if_pos hwhole
    exact hparts ▸ .whole hnil
  have hbegins : beginsBlank (lastLine text) = false :=
    (Bool.or_eq_false_iff.mp (Bool.eq_false_iff.mpr hwhole)).1
  rcases line_or_below text with hline | ⟨front, last, hline, rfl⟩
  · rw [lastLine_of_notMem hline] at hbegins
    have halone : StandsAlone text := ⟨hnil, hline, hbegins, h⟩
    exact ofTidy_of_standsAlone halone ▸ .line halone
  · obtain ⟨hlast, htrimmed⟩ := h.of_append
    rw [lastLine_append front hline] at hbegins hwhole
    rw [beforeLastLine_append front hline] at hwhole
    have halone : StandsAlone last := ⟨hlast, hline, hbegins, htrimmed⟩
    have hparts : ofTidy (front ++ '\n' :: last) =
        ⟨if front.all Text.isWhiteSpace then none else some (String.ofList front),
          some (String.ofList last)⟩ := by
      rw [ofTidy, hne, lastLine_append front hline, beforeLastLine_append front hline]
      exact if_neg hwhole
    rw [hparts]
    split
    · next hfront => exact .belowBlank halone (List.all_eq_true.mp hfront)
    · next hfront => exact .below halone (mt List.all_eq_true.mpr hfront)

/-! ## The parts and the text -/

/-- The tail of a text is its last line, and has no white space at either end.  What is above it is
the body and a newline, or blank where there is no body. -/
structure TailOf (text : List Char) (body : Option String) (tail : List Char) : Prop where
  lastLine_eq : (Text.cut '\n' text).getLast? = some tail
  ne_nil : tail ≠ []
  newline_notMem : '\n' ∉ tail
  begins : ∀ c ∈ tail.head?, Text.isWhiteSpace c = false
  ends : ∀ c ∈ tail.getLast?, Text.isWhiteSpace c = false
  below_body : ∀ front, body = some front →
    ¬ Blank front.toList ∧ text = front.toList ++ '\n' :: tail
  below_blank : body = none → ∃ front, Blank front ∧ text = front ++ tail

/-- The parts of a text hold all of it but blank lines above a tail, each character once. -/
structure PartsOf (text : List Char) (parts : CellParts) : Prop where
  none_iff : parts.body = none ∧ parts.tail = none ↔ text = []
  body_alone : ∀ body, parts.body = some body → parts.tail = none → body.toList = text
  tailOf : ∀ tail, parts.tail = some tail → TailOf text parts.body tail.toList

theorem StandsAlone.tailOf {text last : List Char} (h : StandsAlone last) {body : Option String}
    (hcut : (Text.cut '\n' text).getLast? = some last)
    (hbody : ∀ front, body = some front → ¬ Blank front.toList ∧ text = front.toList ++ '\n' :: last)
    (hblank : body = none → ∃ front, Blank front ∧ text = front ++ last) :
    TailOf text body (String.ofList last).toList := by
  rw [String.toList_ofList]
  refine ⟨hcut, h.ne_nil, h.newline_notMem, fun c hc => ?_, h.ends, hbody, hblank⟩
  have hbegins := h.begins
  rw [beginsBlank, Option.mem_def.mp hc] at hbegins
  exact hbegins

theorem getLast?_cut {front last : List Char} (h : '\n' ∉ last) :
    (Text.cut '\n' (front ++ '\n' :: last)).getLast? = some last := by
  rw [Text.cut_append, Text.cut_of_notMem h, List.getLast?_concat]

theorem Parted.partsOf {text : List Char} {parts : CellParts} (h : Parted text parts) :
    PartsOf text parts := by
  cases h with
  | blank => exact ⟨⟨fun _ => rfl, fun _ => ⟨rfl, rfl⟩⟩, nofun, nofun⟩
  | whole hne =>
      refine ⟨⟨nofun, fun h => absurd h hne⟩, ?_, nofun⟩
      rintro body ⟨⟩ -
      exact String.toList_ofList
  | line hlast =>
      refine ⟨⟨nofun, fun h => absurd h hlast.ne_nil⟩, nofun, ?_⟩
      rintro tail ⟨⟩
      refine hlast.tailOf ?_ nofun fun _ => ⟨[], nofun, rfl⟩
      rw [Text.cut_of_notMem hlast.newline_notMem]
      rfl
  | @belowBlank front last hlast hfront =>
      refine ⟨⟨nofun, fun h => absurd h (by simp)⟩, nofun, ?_⟩
      rintro tail ⟨⟩
      refine hlast.tailOf (getLast?_cut hlast.newline_notMem) nofun fun _ => ?_
      refine ⟨front ++ ['\n'], fun c hc => ?_, List.append_cons ..⟩
      rcases List.mem_append.mp hc with hc | hc
      · exact hfront c hc
      · rw [List.mem_singleton.mp hc]
        decide
  | below hlast hfront =>
      refine ⟨⟨nofun, fun h => absurd h (by simp)⟩, nofun, ?_⟩
      rintro tail ⟨⟩
      refine hlast.tailOf (getLast?_cut hlast.newline_notMem) ?_ nofun
      rintro body ⟨⟩
      rw [String.toList_ofList]
      exact ⟨hfront, rfl⟩

/-! ## The parts of the parts -/

/-- Splitting the parts of a text again, put together, gives the same parts. -/
theorem Parted.ofSource_joined {text : List Char} (hunified : Unified text) (htrimmed : Trimmed text)
    {parts : CellParts} (h : Parted text parts) (hparts : ofTidy text = parts) :
    ofSource parts.joined = parts := by
  have htidy {line : List Char} (hline : Unified line) (hend : Trimmed line) : tidy line = line := by
    rw [tidy, hline.unifyLineEnds_eq, trimEnd_eq_self_iff.mpr hend]
  have hsame (hjoined : parts.joined.toList = text) : ofSource parts.joined = parts := by
    rw [ofSource, hjoined, htidy hunified htrimmed, hparts]
  cases h with
  | blank => rfl
  | whole => exact hsame String.toList_ofList
  | line => exact hsame String.toList_ofList
  | below =>
      refine hsame ?_
      simp [CellParts.joined]
  | @belowBlank front last hlast hfront =>
      -- What was above the tail is gone, and with it the newline.
      have hunified : Unified last := unified_of_notMem hlast.newline_notMem
      change ofSource (String.ofList last) = _
      rw [ofSource, String.toList_ofList, htidy hunified hlast.ends, ofTidy_of_standsAlone hlast]

/-- The parts of a cell are those of its text with line ends unified and without the white space at
the end: nothing where that is empty, all of it, or its last line and what is above it.  Put
together, the parts of a text without two carriage returns before a newline have the same parts. -/
theorem ofSource_lossless (source : String) :
    PartsOf (trimEnd (unifyLineEnds source.toList)) (ofSource source) ∧
      (¬ ['\r', '\r', '\n'] <:+: source.toList →
        ofSource (ofSource source).joined = ofSource source) := by
  have htrimmed : Trimmed (trimEnd (unifyLineEnds source.toList)) := trimmed_trimEnd _
  have hparted : Parted (trimEnd (unifyLineEnds source.toList)) (ofSource source) :=
    parted_ofTidy htrimmed
  refine ⟨hparted.partsOf, fun hreturns => hparted.ofSource_joined ?_ htrimmed rfl⟩
  exact (unified_unifyLineEnds hreturns).front (isPrefix_trimEnd _)

/-- A blank line and a carriage return within the tail: the blank line is dropped, the carriage
return stays, and the tail by itself has the same parts. -/
theorem ofSource_lossless_blank :
    let source := " \r\n\nlet\r x \u2003\n"
    let parts : CellParts := ⟨none, some "let\r x"⟩
    ¬ ['\r', '\r', '\n'] <:+: source.toList ∧ ofSource source = parts ∧
      PartsOf " \n\nlet\r x".toList parts ∧ ofSource parts.joined = parts := by
  intro source parts
  have hreturns : ¬ ['\r', '\r', '\n'] <:+: source.toList := by decide
  have hparts : ofSource source = parts := by decide
  have htext : trimEnd (unifyLineEnds source.toList) = " \n\nlet\r x".toList := by decide
  obtain ⟨hparted, hsame⟩ := ofSource_lossless source
  rw [hparts] at hparted hsame
  exact ⟨hreturns, hparts, htext ▸ hparted, hsame hreturns⟩

/-- Of two carriage returns before a newline one is left, and is unified when the parts are split
again. -/
example : ofSource (ofSource "a\r\r\nb").joined ≠ ofSource "a\r\r\nb" := by decide

end Cell

end Cellbook
