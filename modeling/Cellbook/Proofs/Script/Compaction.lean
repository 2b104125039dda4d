import Cellbook.Script.Environment
import Mathlib.Data.Finset.Card

/-!
# Compaction of environments

A script that declares a variable leaves the older variables of its name in place, out of reach.
Compaction drops them: of the entries of an environment it keeps the last of each name
(`Environment.entries_compact`), and what is found by name stays (`Environment.find?_newest`).  So
after a program that could be read no two variables have one name, whether it failed or not
(`compact_lastOfEach`).

The variables are held newest first, so dropping them is `newest`; on a list with one more variable
in front it is an equation without the names seen so far (`newest_cons`), and all else follows from
that.
-/

namespace Cellbook.Script

/-- The entries that no later one of the same name follows, in the order in which they stand. -/
def lastOfEach : List Binding → List Binding
  | [] => []
  | b :: later => if later.any (·.name == b.name) then lastOfEach later else b :: lastOfEach later

namespace Environment

/-! ## The newest of each name -/

/-- The names seen before only filter what is kept. -/
theorem newest_eq_filter (seen : List String) (scope : List Binding) :
    newest seen scope = (newest [] scope).filter fun b => !seen.contains b.name := by
  induction scope generalizing seen with
  | nil => rfl
  | cons b scope ih =>
      have hkept : newest [] (b :: scope) = b :: newest [b.name] scope := rfl
      rw [hkept, newest, ih [b.name]]
      by_cases hseen : b.name ∈ seen
      · -- What has the name of `b` is filtered out in any case.
        rw [if_pos (List.contains_iff_mem.mpr hseen), ih seen,
          List.filter_cons_of_neg (by simpa using hseen), List.filter_filter]
        refine List.filter_congr fun c _ => ?_
        by_cases hname : c.name = b.name
        · simp [hname, hseen]
        · simp [hname]
      · rw [if_neg (by simpa using hseen), ih (b.name :: seen),
          List.filter_cons_of_pos (by simpa using hseen), List.filter_filter]
        congr 1
        refine List.filter_congr fun c _ => ?_
        by_cases hname : c.name = b.name
        · simp [hname]
        · simp [hname]

/-- The newest variable hides the others of its name, and nothing else. -/
theorem newest_cons (b : Binding) (scope : List Binding) :
    newest [] (b :: scope) = b :: (newest [] scope).filter (·.name != b.name) := by
  have hkept : newest [] (b :: scope) = b :: newest [b.name] scope := rfl
  rw [hkept, newest_eq_filter]
  congr 1
  refine List.filter_congr fun c _ => ?_
  by_cases hname : c.name = b.name
  · simp [hname]
  · simp [hname]

theorem newest_sublist (scope : List Binding) : (newest [] scope).Sublist scope := by
  induction scope with
  | nil => exact .slnil
  | cons b scope ih =>
      rw [newest_cons]
      exact (List.filter_sublist.trans ih).cons_cons b

/-- No two variables that are kept have one name. -/
theorem nodup_newest (scope : List Binding) : ((newest [] scope).map Binding.name).Nodup := by
  induction scope with
  | nil => exact .nil
  | cons b scope ih =>
      rw [newest_cons, List.map_cons, List.nodup_cons]
      refine ⟨?_, ih.sublist (List.filter_sublist.map _)⟩
      simp

/-- What is found by name is what is found among the newest. -/
theorem find?_newest (name : String) (scope : List Binding) :
    (newest [] scope).find? (·.name == name) = scope.find? (·.name == name) := by
  induction scope with
  | nil => rfl
  | cons b scope ih =>
      rw [newest_cons, List.find?_cons, List.find?_cons]
      by_cases hname : b.name = name
      · simp [hname]
      · simp only [beq_eq_false_iff_ne.mpr hname, ← ih, List.find?_filter]
        congr 1
        funext c
        by_cases hc : c.name = name <;> simp [hc, Ne.symm hname]

/-- A name stands for a variable that is kept, if it stands for any. -/
theorem mem_map_name_newest {name : String} {scope : List Binding} :
    name ∈ (newest [] scope).map Binding.name ↔ name ∈ scope.map Binding.name := by
  have hfound (l : List Binding) :
      name ∈ l.map Binding.name ↔ (l.find? (·.name == name)).isSome = true := by
    simp [List.find?_isSome]
  rw [hfound, hfound, find?_newest]

/-- Nothing is dropped where the names differ. -/
theorem newest_of_nodup {scope : List Binding} (h : (scope.map Binding.name).Nodup) :
    newest [] scope = scope := by
  induction scope with
  | nil => rfl
  | cons b scope ih =>
      rw [List.map_cons, List.nodup_cons] at h
      rw [newest_cons, ih h.2, List.filter_eq_self.mpr]
      intro c hc
      exact bne_iff_ne.mpr fun hname => h.1 (hname ▸ List.mem_map_of_mem hc)

@[simp] theorem newest_newest (scope : List Binding) :
    newest [] (newest [] scope) = newest [] scope :=
  newest_of_nodup (nodup_newest scope)

/-- There are as many newest variables as there are names. -/
theorem length_newest (scope : List Binding) :
    (newest [] scope).length = (scope.map Binding.name).toFinset.card := by
  rw [← List.length_map Binding.name, ← List.toFinset_card_of_nodup (nodup_newest scope)]
  congr 1
  ext name
  rw [List.mem_toFinset, List.mem_toFinset, mem_map_name_newest]

/-- What is kept of variables alike in name and order, whatever they hold. -/
theorem newest_map {f : Binding → Binding} (hf : ∀ b, (f b).name = b.name) (scope : List Binding) :
    newest [] (scope.map f) = (newest [] scope).map f := by
  induction scope with
  | nil => rfl
  | cons b scope ih =>
      rw [List.map_cons, newest_cons, newest_cons, List.map_cons, ih, List.filter_map, hf]
      congr 3
      funext c
      exact congrArg (· != b.name) (hf c)

/-- An older variable is kept if there is none of its name. -/
theorem newest_concat (scope : List Binding) (b : Binding) :
    newest [] (scope ++ [b]) =
      newest [] scope ++ if scope.any (·.name == b.name) then [] else [b] := by
  induction scope with
  | nil => rfl
  | cons c scope ih =>
      rw [List.cons_append, newest_cons, newest_cons, ih, List.filter_append, List.any_cons,
        List.cons_append]
      by_cases hname : c.name = b.name
      · simp [hname]
      · by_cases hany : scope.any (·.name == b.name) = true
        · simp [hany]
        · simp [hany, hname, Ne.symm hname]

/-- Variables are kept newest first; as entries, oldest first, they are the last of each name. -/
theorem lastOfEach_eq (entries : List Binding) :
    lastOfEach entries = (newest [] entries.reverse).reverse := by
  induction entries with
  | nil => rfl
  | cons b later ih =>
      rw [lastOfEach, ih, List.reverse_cons, newest_concat, List.any_reverse, List.reverse_append]
      split <;> rfl

/-! ## Compaction -/

/-- A variable with a copy of the value that it stands for. -/
def copy (environment : Environment) (b : Binding) : Binding :=
  { b with value := environment.flatten b.value }

/-- The variables as they are handed out: oldest first, each with the value it stands for. -/
def entries (environment : Environment) : List Binding :=
  (environment.scope.map environment.copy).reverse

/-- Whether a variable is constant; nothing where there is none of the name. -/
def constant? (environment : Environment) (name : String) : Option Bool :=
  (environment.find? name).map Binding.constant

variable (environment : Environment)

/-- A cell holds no other cell. -/
theorem flatten_flatten (value : Value) :
    environment.flatten (environment.flatten value) = environment.flatten value := by
  cases value with
  | shared cell =>
      rw [flatten]
      cases environment.cells[cell]? with
      | none => rfl
      | some cell =>
          have hcell := cell.isShared_value
          cases hvalue : cell.value <;> simp_all [flatten, Value.isShared]
  | _ => rfl

@[simp] theorem copy_copy (b : Binding) :
    environment.copy (environment.copy b) = environment.copy b :=
  congrArg (Binding.mk b.name b.constant) (environment.flatten_flatten b.value)

/-- Compaction leaves the cells as they are. -/
@[simp] theorem copy_compact : environment.compact.copy = environment.copy := by
  have hflatten : environment.compact.flatten = environment.flatten := by
    funext value
    rw [compact]
    split <;> rfl
  funext b
  rw [copy, hflatten, copy]

/-- Compaction changes nothing but the variables. -/
theorem library_compact : environment.compact.library = environment.library := by
  rw [compact]
  split <;> rfl

theorem cells_compact : environment.compact.cells = environment.cells := by
  rw [compact]
  split <;> rfl

theorem lambdas_compact : environment.compact.lambdas = environment.lambdas := by
  rw [compact]
  split <;> rfl

/-- Nothing is compacted where nothing is hidden. -/
theorem compact_of_length_eq
    (h : (newest [] environment.scope).length = environment.scope.length) :
    environment.compact = environment := by
  rw [compact, if_pos (beq_iff_eq.mpr h)]

/-- Where variables are dropped, those that are kept hold copies. -/
theorem scope_compact_of_length_ne
    (h : (newest [] environment.scope).length ≠ environment.scope.length) :
    environment.compact.scope = (newest [] environment.scope).map environment.copy := by
  rw [compact, if_neg (by simpa using h)]
  rfl

/-- Apart from what holds a copy, compaction keeps the newest variables. -/
theorem map_copy_scope_compact :
    environment.compact.scope.map environment.copy =
      (newest [] environment.scope).map environment.copy := by
  by_cases h : (newest [] environment.scope).length = environment.scope.length
  · rw [environment.compact_of_length_eq h, (newest_sublist environment.scope).eq_of_length h]
  · rw [environment.scope_compact_of_length_ne h, List.map_map]
    exact List.map_congr_left fun b _ => environment.copy_copy b

theorem lastOfEach_entries :
    lastOfEach environment.entries =
      ((newest [] environment.scope).map environment.copy).reverse := by
  rw [lastOfEach_eq, entries, List.reverse_reverse, newest_map]
  exact fun _ => rfl

/-- The entries of an environment after compaction are the last of each name. -/
theorem entries_compact : environment.compact.entries = lastOfEach environment.entries := by
  rw [entries, copy_compact, map_copy_scope_compact, lastOfEach_entries]

/-- The names of the entries are those of the variables. -/
theorem map_name_entries :
    environment.entries.map Binding.name = (environment.scope.map Binding.name).reverse := by
  rw [entries, List.map_reverse, List.map_map]
  rfl

/-- No two variables have one name after compaction. -/
theorem nodup_entries_compact : (environment.compact.entries.map Binding.name).Nodup := by
  rw [entries_compact, lastOfEach_entries, List.map_reverse, List.nodup_reverse, List.map_map]
  exact nodup_newest environment.scope

/-- What a name stands for is, apart from what holds a copy, found in the variables with copies. -/
theorem map_copy_find? (name : String) :
    (environment.find? name).map environment.copy =
      (environment.scope.map environment.copy).find? (·.name == name) := by
  rw [List.find?_map]
  rfl

/-- A name stands for the same variable after compaction, apart from what holds a copy. -/
theorem map_copy_find?_compact (name : String) :
    (environment.compact.find? name).map environment.copy =
      (environment.find? name).map environment.copy := by
  rw [← environment.copy_compact, map_copy_find?, copy_compact, map_copy_scope_compact,
    List.find?_map, map_copy_find?, List.find?_map]
  exact congrArg (Option.map environment.copy) (find?_newest name environment.scope)

/-- There are as many variables as names before compaction. -/
theorem size_compact :
    environment.compact.size = (environment.entries.map Binding.name).toFinset.card := by
  have hlength : environment.compact.size = (newest [] environment.scope).length := by
    rw [size, ← List.length_map environment.copy, map_copy_scope_compact, List.length_map]
  rw [hlength, length_newest, map_name_entries, List.toFinset_reverse]

/-- Nothing is left to compact after compaction. -/
theorem compact_compact : environment.compact.compact = environment.compact := by
  have hnames := environment.nodup_entries_compact
  rw [map_name_entries, List.nodup_reverse] at hnames
  exact compact_of_length_eq _ (congrArg List.length (newest_of_nodup hnames))

/-- No variable is hidden just if the entries are the last of each name already. -/
theorem length_newest_eq_iff :
    (newest [] environment.scope).length = environment.scope.length ↔
      lastOfEach environment.entries = environment.entries := by
  rw [lastOfEach_entries]
  constructor
  · intro h
    rw [(newest_sublist environment.scope).eq_of_length h, entries]
  · intro h
    simpa [entries] using congrArg List.length h

/-- Compaction leaves an environment as it is just if no variable is hidden. -/
theorem compact_eq_self_iff :
    environment.compact = environment ↔
      (newest [] environment.scope).length = environment.scope.length := by
  refine ⟨fun h => ?_, compact_of_length_eq environment⟩
  have hnames := environment.nodup_entries_compact
  rw [map_name_entries, List.nodup_reverse, h] at hnames
  exact congrArg List.length (newest_of_nodup hnames)

/-- What compaction makes of an environment. -/
structure Compacted (before after : Environment) : Prop where
  /-- The last entry of each name is kept, with its constancy and its value. -/
  entries_eq : after.entries = lastOfEach before.entries
  sublist : after.entries.Sublist before.entries
  contains_eq (name : String) : after.contains name = before.contains name
  get?_eq (name : String) : after.get? name = before.get? name
  constant?_eq (name : String) : after.constant? name = before.constant? name
  nodup : (after.entries.map Binding.name).Nodup
  /-- There are as many variables as there were names. -/
  size_eq : after.size = (before.entries.map Binding.name).toFinset.card
  compact_eq : after.compact = after

theorem compacted_compact : Compacted environment environment.compact where
  entries_eq := environment.entries_compact
  sublist := by
    rw [entries_compact, lastOfEach_entries]
    exact ((newest_sublist environment.scope).map environment.copy).reverse
  contains_eq name := by
    simpa [contains] using congrArg Option.isSome (environment.map_copy_find?_compact name)
  get?_eq name := by
    have h := congrArg (Option.map Binding.value) (environment.map_copy_find?_compact name)
    rw [Option.map_map, Option.map_map] at h
    change Option.map (Binding.value ∘ environment.compact.copy) _ =
      Option.map (Binding.value ∘ environment.copy) _
    rwa [copy_compact]
  constant?_eq name := by
    have h := congrArg (Option.map Binding.constant) (environment.map_copy_find?_compact name)
    rwa [Option.map_map, Option.map_map] at h
  nodup := environment.nodup_entries_compact
  size_eq := environment.size_compact
  compact_eq := environment.compact_compact

/-- A program that can be read is run, and then the environment is compacted, however it ended. -/
theorem exists_run_of_read (limit : Nat) {source : String} {program : Program}
    (h : environment.read parseScript source = .ok program) :
    ∃ loose, environment.runLoose limit source = .ok loose ∧
      environment.run limit source =
        .ok { loose with environment := loose.environment.compact } := by
  rw [run, runLoose, h]
  exact ⟨_, rfl, rfl⟩

/-- Compaction keeps the last entry of each name, whatever the entries, and leaves an environment as
it is just if that is all of them.  So after a program that could be read, whether it failed or
not, no two variables have one name. -/
theorem compact_lastOfEach (environment : Environment) :
    Compacted environment environment.compact ∧
    ((newest [] environment.scope).length = environment.scope.length ↔
      lastOfEach environment.entries = environment.entries) ∧
    (environment.compact = environment ↔
      (newest [] environment.scope).length = environment.scope.length) ∧
    ∀ limit source program, environment.read parseScript source = .ok program →
      ∃ loose ran, environment.runLoose limit source = .ok loose ∧
        environment.run limit source = .ok ran ∧ Compacted loose.environment ran.environment := by
  refine ⟨environment.compacted_compact, environment.length_newest_eq_iff,
    environment.compact_eq_self_iff, fun limit source program h => ?_⟩
  obtain ⟨loose, hloose, hran⟩ := environment.exists_run_of_read limit h
  exact ⟨loose, _, hloose, hran, loose.environment.compacted_compact⟩

/-- A constant and an older variable are hidden by variables of their names, in a script that then
fails: of five entries the last of each name are left, a constant among them. -/
theorem compact_lastOfEach_failed :
    let environment : Environment :=
      { scope := [⟨"k", true, .int 3⟩, ⟨"x", false, .int 2⟩, ⟨"x", true, .int 1⟩] }
    let source := "let x = 4; const y = 5; let z = 1 / 0;"
    (environment.read parseScript source).isOk = true ∧
    ∃ loose ran, environment.runLoose 0 source = .ok loose ∧ environment.run 0 source = .ok ran ∧
      loose.environment.size = 5 ∧ ran.outcome.isOk = false ∧
      ran.environment.entries.map Binding.name = ["k", "x", "y"] ∧
      ran.environment.entries.map Binding.constant = [true, false, true] ∧
      Compacted loose.environment ran.environment := by
  intro environment source
  have hread : (environment.read parseScript source).isOk = true := by decide +kernel
  obtain ⟨program, hprogram⟩ : ∃ program, environment.read parseScript source = .ok program := by
    cases h : environment.read parseScript source with
    | error fault => rw [h] at hread; cases hread
    | ok program => exact ⟨program, rfl⟩
  obtain ⟨loose, ran, hloose, hran, hcompacted⟩ :=
    environment.compact_lastOfEach.2.2.2 0 source program hprogram
  have hsize : (environment.runLoose 0 source).toOption.map (fun ran => ran.environment.size) =
      some 5 := by decide +kernel
  have hentries : (environment.run 0 source).toOption.map (fun ran =>
      (ran.outcome.isOk, ran.environment.entries.map Binding.name,
        ran.environment.entries.map Binding.constant)) =
      some (false, ["k", "x", "y"], [true, false, true]) := by decide +kernel
  rw [hloose] at hsize
  rw [hran] at hentries
  injection hsize with hsize
  injection hentries with hentries
  injection hentries with hfailed hentries
  injection hentries with hnames hconstants
  exact ⟨hread, loose, ran, hloose, hran, hsize, hfailed, hnames, hconstants, hcompacted⟩

end Environment

end Cellbook.Script
