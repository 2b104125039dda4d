/-!
# Keyed lists

Values under keys, in the order in which the keys were first set.  Setting the value of a key that
is there keeps its place, so a list that is made by setting keys has every key once.
-/

namespace Cellbook.Keyed

theorem nodup_concat {α : Type} {l : List α} {a : α} (h : l.Nodup) (hnew : a ∉ l) :
    (l ++ [a]).Nodup := by
  refine List.nodup_append.mpr ⟨h, List.pairwise_singleton _ _, ?_⟩
  rintro b hb _ ha rfl
  exact hnew (List.mem_singleton.mp ha ▸ hb)

variable {κ α : Type} [BEq κ]

/-- The keys of entries, in order. -/
abbrev keys (entries : List (κ × α)) : List κ := entries.map Prod.fst

/-- Sets the value of a key where it stands, or adds it at the end. -/
def set (key : κ) (value : α) : List (κ × α) → List (κ × α)
  | [] => [(key, value)]
  | (other, old) :: rest =>
    if other == key then (key, value) :: rest else (other, old) :: set key value rest

/-- The entries without that of a key. -/
def erase (key : κ) (entries : List (κ × α)) : List (κ × α) :=
  entries.filter fun entry => entry.1 != key

theorem mem_set (key : κ) (value : α) (entries : List (κ × α)) :
    (key, value) ∈ set key value entries := by
  induction entries with
  | nil => exact List.mem_singleton_self _
  | cons entry rest ih =>
      rw [set]
      split
      · exact List.mem_cons_self
      · exact List.mem_cons_of_mem _ ih

theorem nodup_keys_erase (key : κ) {entries : List (κ × α)} (h : (keys entries).Nodup) :
    (keys (erase key entries)).Nodup :=
  h.sublist (List.filter_sublist.map Prod.fst)

variable [LawfulBEq κ]

/-! ## Entries -/

theorem set_cons_self (key : κ) (value old : α) (rest : List (κ × α)) :
    set key value ((key, old) :: rest) = (key, value) :: rest := if_pos (beq_self_eq_true key)

theorem set_cons_of_ne {key first : κ} (h : first ≠ key) (value old : α) (rest : List (κ × α)) :
    set key value ((first, old) :: rest) = (first, old) :: set key value rest :=
  if_neg (mt beq_iff_eq.mp h)

theorem set_of_notMem {key : κ} (value : α) {entries : List (κ × α)} (h : key ∉ keys entries) :
    set key value entries = entries ++ [(key, value)] := by
  induction entries with
  | nil => rfl
  | cons entry rest ih =>
      rw [keys, List.map_cons, List.mem_cons, not_or] at h
      rw [set_cons_of_ne (Ne.symm h.1), ih h.2, List.cons_append]

/-- Setting the values of two keys commutes where one of them is there. -/
theorem set_comm {key other : κ} (hne : key ≠ other) (value new : α) {entries : List (κ × α)}
    (h : key ∈ keys entries) :
    set other new (set key value entries) = set key value (set other new entries) := by
  induction entries with
  | nil => exact absurd h List.not_mem_nil
  | cons entry rest ih =>
      rcases entry with ⟨first, old⟩
      by_cases hkey : first = key
      · subst hkey
        rw [set_cons_self, set_cons_of_ne hne, set_cons_of_ne hne, set_cons_self]
      · have hrest : key ∈ keys rest := (List.mem_cons.mp h).resolve_left (Ne.symm hkey)
        rw [set_cons_of_ne hkey]
        by_cases hother : first = other
        · subst hother
          rw [set_cons_self, set_cons_self, set_cons_of_ne hkey]
        · rw [set_cons_of_ne hother, set_cons_of_ne hother, set_cons_of_ne hkey, ih hrest]

/-- Setting the value of a key puts in no entry of another one, and takes none out. -/
theorem mem_set_iff_of_ne {key : κ} {value : α} {entries : List (κ × α)} {entry : κ × α}
    (h : entry.1 ≠ key) : entry ∈ set key value entries ↔ entry ∈ entries := by
  have hne (value : α) : entry ≠ (key, value) := fun heq => h (congrArg Prod.fst heq)
  induction entries with
  | nil => simp [set, hne]
  | cons first rest ih =>
      rcases first with ⟨first, old⟩
      by_cases hfirst : first = key
      · subst hfirst
        simp [set_cons_self, hne]
      · simp [set_cons_of_ne hfirst, ih]

/-! ## Values -/

theorem lookup_cons [DecidableEq κ] (key : κ) (value : α) (entries : List (κ × α)) (other : κ) :
    ((key, value) :: entries).lookup other =
      if other = key then some value else entries.lookup other := by
  rw [List.lookup_cons]
  by_cases h : other = key
  · rw [if_pos h, beq_iff_eq.mpr h]
  · rw [if_neg h, beq_eq_false_iff_ne.mpr h]

/-- Setting the value of a key changes that of no other. -/
theorem lookup_set [DecidableEq κ] (key : κ) (value : α) (entries : List (κ × α)) (other : κ) :
    (set key value entries).lookup other =
      if other = key then some value else entries.lookup other := by
  induction entries with
  | nil => exact lookup_cons key value [] other
  | cons entry rest ih =>
      rcases entry with ⟨first, old⟩
      by_cases hfirst : first = key
      · subst hfirst
        rw [set_cons_self, lookup_cons, lookup_cons]
        split <;> rfl
      · rw [set_cons_of_ne hfirst, lookup_cons, lookup_cons, ih]
        by_cases hother : other = first
        · rw [if_pos hother, if_pos hother, if_neg (hother ▸ hfirst)]
        · rw [if_neg hother, if_neg hother]

/-- Erasing a key takes away its value and that of no other. -/
theorem lookup_erase [DecidableEq κ] (key : κ) (entries : List (κ × α)) (other : κ) :
    (erase key entries).lookup other = if other = key then none else entries.lookup other := by
  rw [erase]
  induction entries with
  | nil => exact (ite_self none).symm
  | cons entry rest ih =>
      rcases entry with ⟨first, old⟩
      rw [List.filter_cons]
      by_cases hfirst : first = key
      · rw [if_neg (by simpa using hfirst), ih, lookup_cons, hfirst]
        split <;> rfl
      · rw [if_pos (by simpa using hfirst), lookup_cons, lookup_cons, ih]
        by_cases hother : other = first
        · rw [if_pos hother, if_pos hother, if_neg (hother ▸ hfirst)]
        · rw [if_neg hother, if_neg hother]

theorem isSome_lookup_iff (entries : List (κ × α)) (key : κ) :
    (entries.lookup key).isSome = true ↔ key ∈ keys entries := by
  induction entries with
  | nil => simp
  | cons entry rest ih =>
      rw [keys, List.map_cons, List.mem_cons, ← ih]
      by_cases h : key = entry.1
      · subst h
        exact iff_of_true (by simp) (.inl rfl)
      · rw [List.lookup_cons, beq_eq_false_iff_ne.mpr h, or_iff_right h]

/-- Where each key stands once, what is found is what is there. -/
theorem lookup_eq_some_iff {entries : List (κ × α)} (h : (keys entries).Nodup) {key : κ}
    {value : α} : entries.lookup key = some value ↔ (key, value) ∈ entries := by
  induction entries with
  | nil => simp
  | cons entry rest ih =>
      obtain ⟨hfirst, hrest⟩ := List.nodup_cons.mp h
      rw [List.lookup_cons, List.mem_cons, Prod.ext_iff]
      by_cases hkey : key = entry.1
      · subst hkey
        have hnot : (entry.1, value) ∉ rest := fun hmem => hfirst (List.mem_map.mpr ⟨_, hmem, rfl⟩)
        rw [beq_self_eq_true, Option.some.injEq, or_iff_left hnot]
        exact ⟨fun heq => ⟨rfl, heq.symm⟩, fun heq => heq.2.symm⟩
      · rw [beq_eq_false_iff_ne.mpr hkey, ih hrest, or_iff_right fun heq => hkey heq.1]

/-! ## Keys -/

/-- A value is set under a key that stands there, or at the end. -/
theorem keys_set (key : κ) (value : α) (entries : List (κ × α)) :
    (key ∈ keys entries ∧ keys (set key value entries) = keys entries) ∨
      (key ∉ keys entries ∧ keys (set key value entries) = keys entries ++ [key]) := by
  induction entries with
  | nil => exact .inr ⟨List.not_mem_nil, rfl⟩
  | cons entry rest ih =>
      rcases entry with ⟨first, old⟩
      by_cases hfirst : first = key
      · subst hfirst
        rw [set_cons_self]
        exact .inl ⟨List.mem_cons_self, rfl⟩
      · rw [set_cons_of_ne hfirst]
        rcases ih with ⟨hmem, hkeys⟩ | ⟨hmem, hkeys⟩
        · exact .inl ⟨List.mem_cons_of_mem _ hmem, congrArg (first :: ·) hkeys⟩
        · refine .inr ⟨fun h => ?_, congrArg (first :: ·) hkeys⟩
          exact (List.mem_cons.mp h).elim (fun heq => hfirst heq.symm) hmem

theorem mem_keys_set_iff (key : κ) (value : α) (entries : List (κ × α)) (other : κ) :
    other ∈ keys (set key value entries) ↔ other = key ∨ other ∈ keys entries := by
  rcases keys_set key value entries with ⟨hmem, hkeys⟩ | ⟨-, hkeys⟩
  · rw [hkeys]
    exact ⟨.inr, fun h => h.elim (fun heq => heq ▸ hmem) id⟩
  · rw [hkeys, List.mem_append, List.mem_singleton, or_comm]

theorem nodup_keys_set (key : κ) (value : α) {entries : List (κ × α)} (h : (keys entries).Nodup) :
    (keys (set key value entries)).Nodup := by
  rcases keys_set key value entries with ⟨-, hkeys⟩ | ⟨hmem, hkeys⟩
  · rw [hkeys]
    exact h
  · rw [hkeys]
    exact nodup_concat h hmem

theorem mem_keys_erase_iff (key : κ) (entries : List (κ × α)) {other : κ} :
    other ∈ keys (erase key entries) ↔ other ≠ key ∧ other ∈ keys entries := by
  simp only [keys, erase, List.mem_map, List.mem_filter, bne_iff_ne, ne_eq]
  constructor
  · rintro ⟨entry, ⟨hentry, hkey⟩, rfl⟩
    exact ⟨hkey, entry, hentry, rfl⟩
  · rintro ⟨hkey, entry, hentry, rfl⟩
    exact ⟨entry, ⟨hentry, hkey⟩, rfl⟩

end Cellbook.Keyed
