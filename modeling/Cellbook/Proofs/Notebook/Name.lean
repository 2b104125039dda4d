import Cellbook.Notebook.Name

/-!
# Sanitized names

Sanitizing may change a name beyond recognition, and different names may come to the same, but it
neither gives a name the ending of a notebook's nor takes it away (`hasNotebookSuffix_sanitize`).
So it makes no difference whether the ending is looked for before or after.  The sanitized names are
the texts of characters that may stand in them, and these stay as they are (`sanitize_projection`).
-/

namespace Cellbook

/-! ## Spaces -/

/-- Where no space comes of it, nothing was read as a space. -/
theorem decodeSpaces_eq_self_of_space_notMem {characters : List Char}
    (h : ' ' ∉ decodeSpaces characters) : decodeSpaces characters = characters := by
  fun_induction decodeSpaces characters with
  | case1 => rfl
  | case2 rest ih => exact absurd List.mem_cons_self h
  | case3 c rest hne ih => rw [ih fun hmem => h (List.mem_cons_of_mem c hmem)]

/-- Without a percent sign nothing is read as a space. -/
theorem decodeSpaces_eq_self_of_percent_notMem {characters : List Char}
    (h : '%' ∉ characters) : decodeSpaces characters = characters := by
  fun_induction decodeSpaces characters with
  | case1 => rfl
  | case2 rest ih => exact absurd List.mem_cons_self h
  | case3 c rest hne ih => rw [ih fun hmem => h (List.mem_cons_of_mem c hmem)]

/-- Reading spaces changes no ending in which nothing of what is read as a space has a part. -/
theorem suffix_decodeSpaces_iff {ending : List Char} (h : ∀ c ∈ ending, c ∉ [' ', '%', '2', '0'])
    (characters : List Char) : ending <:+ decodeSpaces characters ↔ ending <:+ characters := by
  have hplain : ∀ {c rest}, c ∈ [' ', '%', '2', '0'] → ending ≠ c :: rest := by
    rintro c rest hc rfl
    exact h c List.mem_cons_self hc
  fun_induction decodeSpaces characters with
  | case1 => exact Iff.rfl
  | case2 rest ih =>
      have hrest : ending <:+ decodeSpaces rest ↔ ending <:+ rest := ih
      rw [List.suffix_cons_iff, List.suffix_cons_iff, List.suffix_cons_iff, List.suffix_cons_iff,
        hrest, or_iff_right (hplain (by decide)), or_iff_right (hplain (by decide)),
        or_iff_right (hplain (by decide)), or_iff_right (hplain (by decide))]
  | case3 c rest hne ih =>
      have hrest : ending <:+ decodeSpaces rest ↔ ending <:+ rest := ih
      have hhere : ending = c :: decodeSpaces rest ↔ ending = c :: rest := by
        -- Where the ending is all there is, nothing in it was read as a space.
        constructor
        · rintro rfl
          have hspace : ' ' ∉ decodeSpaces rest :=
            fun hmem => h ' ' (List.mem_cons_of_mem c hmem) (by decide)
          rw [decodeSpaces_eq_self_of_space_notMem hspace]
        · rintro rfl
          have hpercent : '%' ∉ rest :=
            fun hmem => h '%' (List.mem_cons_of_mem c hmem) (by decide)
          rw [decodeSpaces_eq_self_of_percent_notMem hpercent]
      rw [List.suffix_cons_iff, List.suffix_cons_iff, hrest, hhere]

/-! ## Characters -/

theorem map_fileNameChar_suffix :
    notebookSuffix.toList.map fileNameChar = notebookSuffix.toList := by decide

/-- A character of the ending of a notebook's name stands for itself and for no other. -/
theorem fileNameChar_eq_iff {c : Char} (h : c ∈ notebookSuffix.toList) (other : Char) :
    fileNameChar other = c ↔ other = c := by
  have hself : fileNameChar c = c :=
    List.map_inj_left.mp (map_fileNameChar_suffix.trans (List.map_id _).symm) c h
  have hothers : ∀ c ∈ notebookSuffix.toList, c ≠ ' ' ∧ c ≠ '_' := by simp [notebookSuffix]
  obtain ⟨hspace, hunderscore⟩ := hothers c h
  constructor
  · intro heq
    rw [fileNameChar] at heq
    split at heq
    · exact absurd heq.symm hspace
    · split at heq
      · exact heq
      · exact absurd heq.symm hunderscore
  · rintro rfl
    exact hself

/-- Sanitizing changes no character of the ending of a notebook's name. -/
theorem suffix_map_fileNameChar_iff (characters : List Char) :
    notebookSuffix.toList <:+ characters.map fileNameChar ↔
      notebookSuffix.toList <:+ characters := by
  constructor
  · rintro ⟨before, hbefore⟩
    obtain ⟨first, last, rfl, -, hlast⟩ := List.append_eq_map_iff.mp hbefore
    have hsame : last.map fileNameChar = last.map id := by
      refine List.map_congr_left fun c hc => ?_
      have hmem : fileNameChar c ∈ notebookSuffix.toList := hlast ▸ List.mem_map_of_mem hc
      exact ((fileNameChar_eq_iff hmem c).mp rfl).symm
    rw [List.map_id] at hsame
    exact ⟨first, by rw [← hlast, hsame]⟩
  · rintro ⟨before, rfl⟩
    exact ⟨before.map fileNameChar, by rw [List.map_append, map_fileNameChar_suffix]⟩

/-- A name ends as a notebook's does just if it does so once it is sanitized. -/
theorem hasNotebookSuffix_sanitize (name : String) :
    hasNotebookSuffix (sanitize name) = hasNotebookSuffix name := by
  have hplain : ∀ c ∈ notebookSuffix.toList, c ∉ [' ', '%', '2', '0'] := by simp [notebookSuffix]
  rw [Bool.eq_iff_iff, hasNotebookSuffix, hasNotebookSuffix, List.isSuffixOf_iff_suffix,
    List.isSuffixOf_iff_suffix, sanitize, String.toList_ofList, suffix_map_fileNameChar_iff,
    suffix_decodeSpaces_iff hplain]

/-! ## Taking a name for a notebook's -/

namespace NotebookId

variable {name : String}

theorem ofName?_eq_none (h : hasNotebookSuffix name = false) : ofName? name = none := by
  rw [ofName?, dif_neg]
  rw [h]
  exact Bool.false_ne_true

theorem ofName?_eq_some (h : hasNotebookSuffix name = true) : ofName? name = some ⟨name, h⟩ :=
  dif_pos h

/-- The name of a notebook is the one it was taken from. -/
theorem name_of_ofName? {id : NotebookId} (h : ofName? name = some id) : id.name = name := by
  rw [ofName?] at h
  split at h
  · cases h
    rfl
  · cases h

/-- A name is taken for a notebook's before it is sanitized just if it is so after. -/
theorem map_name_ofName?_sanitize (name : String) :
    (ofName? (sanitize name)).map NotebookId.name =
      (ofName? name).map fun id => sanitize id.name := by
  have hsuffix := hasNotebookSuffix_sanitize name
  cases h : hasNotebookSuffix name with
  | false => rw [ofName?_eq_none h, ofName?_eq_none (hsuffix.trans h)]; rfl
  | true => rw [ofName?_eq_some h, ofName?_eq_some (hsuffix.trans h)]; rfl

end NotebookId

/-! ## What is left as it is -/

/-- A character that may stand in the name of a file is a letter or digit, or one of four others. -/
theorem isFileNameChar_iff (c : Char) :
    isFileNameChar c = true ↔ Text.isAlphanumeric c = true ∨ c ∈ ['_', '.', '-', ' '] := by
  simp [isFileNameChar, or_assoc]

/-- Neither a separator nor what sanitizing reads may stand in the name of a file. -/
theorem isFileNameChar_of_separator :
    ∀ c ∈ ['/', '\\', '%', '+'], isFileNameChar c = false := by
  simp only [List.forall_mem_cons]
  exact ⟨by decide, by decide, by decide, by decide, nofun⟩

/-- What stands for a character may stand in the name of a file. -/
theorem isFileNameChar_fileNameChar (c : Char) : isFileNameChar (fileNameChar c) = true := by
  rw [fileNameChar]
  split
  · decide
  · split
    · assumption
    · decide

/-- A character stands for itself just if it may stand in the name of a file. -/
theorem fileNameChar_eq_self_iff {c : Char} : fileNameChar c = c ↔ isFileNameChar c = true := by
  constructor
  · intro h
    rw [← h]
    exact isFileNameChar_fileNameChar c
  · intro h
    have hplus : ¬ (c == '+') = true := by
      intro heq
      rw [beq_iff_eq.mp heq, isFileNameChar_of_separator '+' (by decide)] at h
      cases h
    rw [fileNameChar, if_neg hplus, if_pos h]

/-- What is sanitized consists of characters that may stand in the name of a file. -/
theorem isFileNameChar_of_mem_sanitize {name : String} {c : Char}
    (h : c ∈ (sanitize name).toList) : isFileNameChar c = true := by
  rw [sanitize, String.toList_ofList] at h
  obtain ⟨before, -, rfl⟩ := List.mem_map.mp h
  exact isFileNameChar_fileNameChar before

/-- A name stays as it is just if it consists of characters that may stand in the name of a file. -/
theorem sanitize_eq_self_iff {name : String} :
    sanitize name = name ↔ ∀ c ∈ name.toList, isFileNameChar c = true := by
  constructor
  · intro h c hc
    rw [← h] at hc
    exact isFileNameChar_of_mem_sanitize hc
  · intro h
    have hpercent : '%' ∉ name.toList := by
      intro hmem
      have hplain := h '%' hmem
      rw [isFileNameChar_of_separator '%' (by decide)] at hplain
      cases hplain
    have hmap : name.toList.map fileNameChar = name.toList := by
      rw [List.map_congr_left fun c hc => fileNameChar_eq_self_iff.mpr (h c hc), List.map_id']
    rw [sanitize, decodeSpaces_eq_self_of_percent_notMem hpercent, hmap, String.ofList_toList]

/-- What is sanitized stays as it is. -/
theorem sanitize_sanitize (name : String) : sanitize (sanitize name) = sanitize name :=
  sanitize_eq_self_iff.mpr fun _ => isFileNameChar_of_mem_sanitize

/-- Sanitizing is a projection onto the texts of letters, digits and four other characters, among
them no separator, percent sign or plus.  A name is taken for a notebook's just if it is once it is
sanitized, whichever is done first, and it stays as it is just if it is such a text. -/
theorem sanitize_projection (raw : String) :
    (∀ c ∈ (sanitize raw).toList,
      (Text.isAlphanumeric c = true ∨ c ∈ ['_', '.', '-', ' ']) ∧ c ∉ ['/', '\\', '%', '+']) ∧
    sanitize (sanitize raw) = sanitize raw ∧
    (hasNotebookSuffix (sanitize raw) = true ↔ hasNotebookSuffix raw = true) ∧
    (NotebookId.ofName? (sanitize raw)).map NotebookId.name =
      (NotebookId.ofName? raw).map (fun id => sanitize id.name) ∧
    (sanitize raw = raw ↔
      ∀ c ∈ raw.toList, Text.isAlphanumeric c = true ∨ c ∈ ['_', '.', '-', ' ']) := by
  refine ⟨fun c hc => ?_, sanitize_sanitize raw, ?_,
    NotebookId.map_name_ofName?_sanitize raw, ?_⟩
  · have hplain : isFileNameChar c = true := isFileNameChar_of_mem_sanitize hc
    refine ⟨(isFileNameChar_iff c).mp hplain, fun hseparator => ?_⟩
    rw [isFileNameChar_of_separator c hseparator] at hplain
    cases hplain
  · rw [hasNotebookSuffix_sanitize]
  · rw [sanitize_eq_self_iff]
    exact forall₂_congr fun c _ => isFileNameChar_iff c

/-- The halves of an escape with another between them are not read as one, however often a name is
sanitized. -/
theorem sanitize_projection_nested :
    let raw := "%2%200/é+.unb"
    sanitize raw = "_2 0_é .unb" ∧ sanitize (sanitize raw) = sanitize raw ∧
      hasNotebookSuffix (sanitize raw) = true ∧ sanitize raw ≠ raw := by
  intro raw
  obtain ⟨-, htwice, hsuffix, -, hsame⟩ := sanitize_projection raw
  have hpercent : ¬ ∀ c ∈ raw.toList,
      Text.isAlphanumeric c = true ∨ c ∈ ['_', '.', '-', ' '] :=
    fun h => absurd (h '%' (by decide)) (by decide +kernel)
  exact ⟨by decide +kernel, htwice, hsuffix.mpr (by decide), mt hsame.mp hpercent⟩

end Cellbook
