import Cellbook.Proofs.Engine.Registry
import Mathlib.Data.Set.Card

/-!
# Generations of environments

A handle outlives the notebook's removal: whoever holds it reads and writes an environment that no
name leads to any more, while the notebook, looked up again, has another one.  A history of a
registry is a log of what was asked and answered, with writes through any handle that was ever
answered (`Registry.History`).

From the log alone follow which lookups are answered one environment, what stands in it, and which
notebooks are in use (`Registry.generations`).
-/

namespace Cellbook.Registry

variable {ε : Type}

/-! ## Histories -/

/-- What was asked of a registry, and what it answered. -/
inductive Event (ε : Type) where
  | lookedUp (id : NotebookId) (handle : Handle)
  | removed (name : String) (existed : Bool)
  /-- Whether the notebook was in use. -/
  | asked (name : String) (present : Bool)
  /-- How many notebooks were in use. -/
  | counted (size : Nat)
  | wrote (handle : Handle) (update : ε → ε)

/-- Changes the environment that a handle holds. -/
def modify (registry : Registry ε) (handle : Handle) (update : ε → ε) : Registry ε :=
  match registry.get? handle with
  | some environment => registry.set handle (update environment)
  | none => registry

/-- The log of what a registry was asked since it was empty, and what has become of it.  Only
handles that were answered are written through, but these at any time. -/
inductive History (fresh : ε) : List (Event ε) → Registry ε → Prop
  | start : History fresh [] empty
  | lookUp {log : List (Event ε)} {registry : Registry ε} (h : History fresh log registry)
      (id : NotebookId) :
      History fresh (log ++ [.lookedUp id (registry.getOrCreate fresh id).2])
        (registry.getOrCreate fresh id).1
  | remove {log : List (Event ε)} {registry : Registry ε} (h : History fresh log registry)
      (name : String) :
      History fresh (log ++ [.removed name (registry.remove name).2]) (registry.remove name).1
  | ask {log : List (Event ε)} {registry : Registry ε} (h : History fresh log registry)
      (name : String) : History fresh (log ++ [.asked name (registry.contains name)]) registry
  | count {log : List (Event ε)} {registry : Registry ε} (h : History fresh log registry) :
      History fresh (log ++ [.counted registry.size]) registry
  | write {log : List (Event ε)} {registry : Registry ε} (h : History fresh log registry)
      {id : NotebookId} {handle : Handle} (hheld : .lookedUp id handle ∈ log) (update : ε → ε) :
      History fresh (log ++ [.wrote handle update]) (registry.modify handle update)

/-! ## What a log tells -/

/-- A notebook is not removed after a place in a log. -/
def Kept (log : List (Event ε)) (name : String) (place : Nat) : Prop :=
  ∀ later existed, place < later → log[later]? ≠ some (.removed name existed)

/-- A notebook was looked up and has not been removed since. -/
def InUse (log : List (Event ε)) (name : String) : Prop :=
  ∃ (place : Nat) (id : NotebookId) (handle : Handle),
    log[place]? = some (.lookedUp id handle) ∧ id.name = name ∧ Kept log name place

/-- The writes through a handle, in order. -/
def writesThrough (handle : Handle) (log : List (Event ε)) : List (ε → ε) :=
  log.filterMap fun event =>
    match event with
    | .wrote through update => if through = handle then some update else none
    | _ => none

/-- A fresh environment after the writes through a handle. -/
def written (fresh : ε) (log : List (Event ε)) (handle : Handle) : ε :=
  (writesThrough handle log).foldl (fun environment update => update environment) fresh

section Concat

variable (log : List (Event ε)) (event : Event ε)

/-- What stands at a place of a log that has grown. -/
theorem getElem?_concat_iff {place : Nat} {found : Event ε} :
    (log ++ [event])[place]? = some found ↔
      log[place]? = some found ∨ place = log.length ∧ event = found := by
  rw [List.getElem?_append]
  split
  · next h =>
      have hne : place ≠ log.length := Nat.ne_of_lt h
      simp [hne]
  · next h =>
      have hnone : log[place]? = none := List.getElem?_eq_none (Nat.le_of_not_lt h)
      rw [hnone, List.getElem?_singleton]
      split
      · next hzero =>
          have heq : place = log.length := by omega
          simp [heq]
      · next hzero =>
          have hne : place ≠ log.length := by omega
          simp [hne]

/-- Only a removal ends what is kept. -/
theorem kept_concat_iff {name : String} {place : Nat} (h : place < log.length) :
    Kept (log ++ [event]) name place ↔
      Kept log name place ∧ ∀ existed, event ≠ .removed name existed := by
  constructor
  · intro hkept
    refine ⟨fun later existed hlater hmem => ?_, fun existed hevent => ?_⟩
    · exact hkept later existed hlater ((getElem?_concat_iff log event).mpr (.inl hmem))
    · exact hkept log.length existed h ((getElem?_concat_iff log event).mpr (.inr ⟨rfl, hevent⟩))
  · rintro ⟨hkept, hevent⟩ later existed hlater hmem
    rcases (getElem?_concat_iff log event).mp hmem with hmem | ⟨-, heq⟩
    · exact hkept later existed hlater hmem
    · exact hevent existed heq

/-- Nothing comes after the last place. -/
theorem kept_concat_length (name : String) : Kept (log ++ [event]) name log.length := by
  intro later existed hlater hmem
  have hbound := (List.getElem?_eq_some_iff.mp hmem).1
  rw [List.length_append, List.length_singleton] at hbound
  omega

theorem written_concat (fresh : ε) (handle : Handle) :
    written fresh (log ++ [event]) handle =
      match event with
      | .wrote through update =>
        if through = handle then update (written fresh log handle) else written fresh log handle
      | _ => written fresh log handle := by
  rw [written, writesThrough, List.filterMap_append, List.foldl_append]
  cases event with
  | wrote through update =>
      by_cases h : through = handle
      · simp [h, written, writesThrough]
      · simp [h, written, writesThrough]
  | lookedUp | removed | asked | counted => rfl

end Concat

/-! ## Registry and log -/

section Modify

variable (registry : Registry ε) (handle : Handle) (update : ε → ε)

@[simp] theorem live_modify : (registry.modify handle update).live = registry.live := by
  rw [modify]
  split <;> rfl

@[simp] theorem length_environments_modify :
    (registry.modify handle update).environments.length = registry.environments.length := by
  rw [modify]
  split
  · exact List.length_set
  · rfl

/-- A write through a handle changes the environment that it holds and no other. -/
theorem get?_modify (other : Handle) :
    (registry.modify handle update).get? other =
      if handle = other then (registry.get? other).map update else registry.get? other := by
  rw [modify]
  cases henvironment : registry.get? handle with
  | none =>
      dsimp only
      split
      · next h => rw [← h, henvironment, Option.map_none]
      · rfl
  | some environment =>
      have hbound : handle.number < registry.environments.length :=
        (List.getElem?_eq_some_iff.mp henvironment).1
      dsimp only
      rw [get?, set]
      split
      · next h => rw [← h, henvironment, List.getElem?_set_self hbound, Option.map_some]
      · next h =>
          have hnumber : handle.number ≠ other.number := fun heq => h (congrArg Handle.mk heq)
          rw [List.getElem?_set_ne hnumber]
          rfl

end Modify

/-- What a registry is after a log: what every operation keeps. -/
structure Tells (fresh : ε) (log : List (Event ε)) (registry : Registry ε) : Prop where
  /-- Every handle found was answered. -/
  answered : ∀ {name : String} {handle : Handle}, registry.find? name = some handle →
    ∃ (place : Nat) (id : NotebookId), log[place]? = some (.lookedUp id handle) ∧ id.name = name
  /-- A handle is found until its notebook is removed. -/
  found_iff : ∀ {place : Nat} {id : NotebookId} {handle : Handle},
    log[place]? = some (.lookedUp id handle) →
      (registry.find? id.name = some handle ↔ Kept log id.name place)
  /-- No other notebook has a handle that was answered to one, not even later. -/
  owned : ∀ {place : Nat} {id : NotebookId} {handle : Handle} {name : String},
    log[place]? = some (.lookedUp id handle) → registry.find? name = some handle → name = id.name
  /-- Two lookups are answered one handle just if they name one notebook that was kept between. -/
  same_iff : ∀ {place later : Nat} {id other : NotebookId} {handle again : Handle},
    log[place]? = some (.lookedUp id handle) → log[later]? = some (.lookedUp other again) →
      place < later → (handle = again ↔ id = other ∧ Kept (log.take later) id.name place)
  /-- A handle that was answered holds what was written through it. -/
  holds : ∀ {place : Nat} {id : NotebookId} {handle : Handle},
    log[place]? = some (.lookedUp id handle) → registry.get? handle = some (written fresh log handle)
  /-- No write was made through a handle yet to come. -/
  through : ∀ {handle : Handle} {update : ε → ε}, .wrote handle update ∈ log →
    handle.number < registry.environments.length

namespace Tells

variable {fresh : ε} {log : List (Event ε)} {registry : Registry ε}

theorem lt_length {place : Nat} {event : Event ε} (h : log[place]? = some event) :
    place < log.length := (List.getElem?_eq_some_iff.mp h).1

theorem bounded (h : Tells fresh log registry) {place : Nat} {id : NotebookId} {handle : Handle}
    (hlog : log[place]? = some (.lookedUp id handle)) :
    handle.number < registry.environments.length :=
  (List.getElem?_eq_some_iff.mp (h.holds hlog)).1

/-- The notebooks in use are those that were looked up since they were last removed. -/
theorem contains_iff_inUse (h : Tells fresh log registry) (name : String) :
    registry.contains name = true ↔ InUse log name := by
  rw [contains, Option.isSome_iff_exists]
  constructor
  · rintro ⟨handle, hfind⟩
    obtain ⟨place, id, hlog, rfl⟩ := h.answered hfind
    exact ⟨place, id, handle, hlog, rfl, (h.found_iff hlog).mp hfind⟩
  · rintro ⟨place, id, handle, hlog, rfl, hkept⟩
    exact ⟨handle, (h.found_iff hlog).mpr hkept⟩

/-- As many notebooks are counted as are in use. -/
theorem size_eq (h : Tells fresh log registry) : registry.size = {name | InUse log name}.ncard := by
  have hnames : {name | InUse log name} =
      ((registry.live.map fun entry => entry.1.name).toFinset : Set String) := by
    ext name
    rw [Set.mem_ofPred_eq, ← h.contains_iff_inUse, contains_iff_mem, List.coe_toFinset,
      Set.mem_ofPred_eq]
  rw [hnames, Set.ncard_coe_finset, List.toFinset_card_of_nodup registry.names_nodup,
    List.length_map, size]

/-! ### What every operation keeps -/

theorem start : Tells fresh ([] : List (Event ε)) empty where
  answered h := nomatch h
  found_iff h := nomatch h
  owned h := nomatch h
  same_iff h := nomatch h
  holds h := nomatch h
  through h := nomatch h

/-- A lookup that is no last event of a log was there before. -/
theorem lookedUp_of_concat {event : Event ε} (hevent : ∀ id handle, event ≠ .lookedUp id handle)
    {place : Nat} {id : NotebookId} {handle : Handle}
    (hlog : (log ++ [event])[place]? = some (.lookedUp id handle)) :
    log[place]? = some (.lookedUp id handle) := by
  rcases (getElem?_concat_iff log event).mp hlog with hlog | ⟨-, heq⟩
  · exact hlog
  · exact absurd heq (hevent id handle)

/-- What two lookups of a log say of each other does not change as the log grows. -/
theorem same_iff_of_concat (h : Tells fresh log registry) (event : Event ε) {place later : Nat}
    {id other : NotebookId} {handle again : Handle}
    (hplace : log[place]? = some (.lookedUp id handle))
    (hlater : log[later]? = some (.lookedUp other again)) (hlt : place < later) :
    handle = again ↔ id = other ∧ Kept ((log ++ [event]).take later) id.name place := by
  rw [List.take_append_of_le_length (Nat.le_of_lt (lt_length hlater))]
  exact h.same_iff hplace hlater hlt

/-- An event that is neither a lookup nor a removal leaves the notebooks their handles. -/
theorem quiet (h : Tells fresh log registry) {event : Event ε} {next : Registry ε}
    (hlookedUp : ∀ id handle, event ≠ .lookedUp id handle)
    (hremoved : ∀ name existed, event ≠ .removed name existed)
    (hlive : next.live = registry.live)
    (hlength : next.environments.length = registry.environments.length)
    (hholds : ∀ {handle : Handle}, registry.get? handle = some (written fresh log handle) →
      next.get? handle = some (written fresh (log ++ [event]) handle))
    (hthrough : ∀ {handle : Handle} {update : ε → ε}, event = .wrote handle update →
      handle.number < registry.environments.length) :
    Tells fresh (log ++ [event]) next := by
  have hfind : ∀ name, next.find? name = registry.find? name := by
    intro name
    rw [find?, find?, hlive]
  constructor
  case answered =>
    intro name handle hname
    rw [hfind] at hname
    obtain ⟨place, id, hlog, hid⟩ := h.answered hname
    exact ⟨place, id, (getElem?_concat_iff log event).mpr (.inl hlog), hid⟩
  case found_iff =>
    intro place id handle hlog
    have hbefore := lookedUp_of_concat hlookedUp hlog
    rw [hfind, h.found_iff hbefore, kept_concat_iff log event (lt_length hbefore)]
    exact ⟨fun hkept => ⟨hkept, hremoved id.name⟩, And.left⟩
  case owned =>
    intro place id handle name hlog hname
    rw [hfind] at hname
    exact h.owned (lookedUp_of_concat hlookedUp hlog) hname
  case same_iff =>
    intro place later id other handle again hplace hlater hlt
    exact h.same_iff_of_concat event (lookedUp_of_concat hlookedUp hplace)
      (lookedUp_of_concat hlookedUp hlater) hlt
  case holds =>
    intro place id handle hlog
    exact hholds (h.holds (lookedUp_of_concat hlookedUp hlog))
  case through =>
    intro handle update hwrote
    rw [hlength]
    rcases List.mem_append.mp hwrote with hwrote | hwrote
    · exact h.through hwrote
    · exact hthrough (List.mem_singleton.mp hwrote).symm

theorem ask (h : Tells fresh log registry) (name : String) (present : Bool) :
    Tells fresh (log ++ [.asked name present]) registry := by
  refine h.quiet (fun _ _ => nofun) (fun _ _ => nofun) rfl rfl (fun hholds => ?_) nofun
  rw [written_concat, hholds]

theorem count (h : Tells fresh log registry) (size : Nat) :
    Tells fresh (log ++ [.counted size]) registry := by
  refine h.quiet (fun _ _ => nofun) (fun _ _ => nofun) rfl rfl (fun hholds => ?_) nofun
  rw [written_concat, hholds]

theorem write (h : Tells fresh log registry) {id : NotebookId} {handle : Handle}
    (hheld : .lookedUp id handle ∈ log) (update : ε → ε) :
    Tells fresh (log ++ [.wrote handle update]) (registry.modify handle update) := by
  obtain ⟨place, hplace⟩ := List.mem_iff_getElem?.mp hheld
  refine h.quiet (fun _ _ => nofun) (fun _ _ => nofun) (registry.live_modify handle update)
    (registry.length_environments_modify handle update) (fun {other} hholds => ?_) ?_
  · rw [get?_modify, written_concat, hholds]
    dsimp only
    split <;> rfl
  · rintro _ _ ⟨⟩
    exact h.bounded hplace

theorem remove (h : Tells fresh log registry) (name : String) (existed : Bool) :
    Tells fresh (log ++ [.removed name existed]) (registry.remove name).1 := by
  have hlookedUp : ∀ (id : NotebookId) (handle : Handle),
      Event.removed name existed ≠ (.lookedUp id handle : Event ε) := fun _ _ => nofun
  constructor
  case answered =>
    intro other handle hother
    rw [find?_remove] at hother
    split at hother
    · exact nomatch hother
    · obtain ⟨place, id, hlog, hid⟩ := h.answered hother
      exact ⟨place, id, (getElem?_concat_iff log _).mpr (.inl hlog), hid⟩
  case found_iff =>
    intro place id handle hlog
    have hbefore := lookedUp_of_concat hlookedUp hlog
    rw [find?_remove, kept_concat_iff log _ (lt_length hbefore), ← h.found_iff hbefore]
    split
    · next heq => exact ⟨nofun, fun hkept => absurd (heq ▸ rfl) (hkept.2 existed)⟩
    · next hne =>
        refine ⟨fun hfind => ⟨hfind, fun answer heq => hne ?_⟩, And.left⟩
        cases heq
        rfl
  case owned =>
    intro place id handle other hlog hother
    rw [find?_remove] at hother
    split at hother
    · exact nomatch hother
    · exact h.owned (lookedUp_of_concat hlookedUp hlog) hother
  case same_iff =>
    intro place later id other handle again hplace hlater hlt
    exact h.same_iff_of_concat _ (lookedUp_of_concat hlookedUp hplace)
      (lookedUp_of_concat hlookedUp hlater) hlt
  case holds =>
    intro place id handle hlog
    rw [written_concat]
    exact h.holds (lookedUp_of_concat hlookedUp hlog)
  case through =>
    intro handle update hwrote
    rcases List.mem_append.mp hwrote with hwrote | hwrote
    · exact h.through hwrote
    · exact nomatch List.mem_singleton.mp hwrote

/-- A lookup is answered a handle that was answered before just if the notebook has that handle. -/
theorem eq_getOrCreate_iff (h : Tells fresh log registry) {place : Nat} {id : NotebookId}
    {handle : Handle} (hlog : log[place]? = some (.lookedUp id handle)) (other : NotebookId) :
    handle = (registry.getOrCreate fresh other).2 ↔ registry.find? other.name = some handle := by
  rcases registry.getOrCreate_cases fresh other with ⟨found, hfind, heq⟩ | ⟨hfind, heq⟩
  · rw [heq, hfind, Option.some.injEq, eq_comm]
  · rw [heq, hfind]
    constructor
    · rintro rfl
      exact absurd (h.bounded hlog) (Nat.lt_irrefl _)
    · exact nofun

/-- Nothing was written through a handle that has not been answered. -/
theorem written_of_not_lt (h : Tells fresh log registry) {handle : Handle}
    (hhandle : ¬ handle.number < registry.environments.length) :
    written fresh log handle = fresh := by
  have hnil : writesThrough handle log = [] := by
    rw [writesThrough, List.filterMap_eq_nil_iff]
    intro event hevent
    cases event with
    | wrote through update =>
        refine if_neg ?_
        rintro rfl
        exact hhandle (h.through hevent)
    | lookedUp | removed | asked | counted => rfl
  rw [written, hnil]
  rfl

/-- A lookup leaves every handle what it holds, and the handle that it answers holds what was
written through it. -/
theorem get?_getOrCreate (h : Tells fresh log registry) (id : NotebookId) {handle : Handle}
    (hhandle : handle = (registry.getOrCreate fresh id).2 ∨
      registry.get? handle = some (written fresh log handle)) :
    (registry.getOrCreate fresh id).1.get? handle = some (written fresh log handle) := by
  rcases registry.getOrCreate_cases fresh id with ⟨found, hfind, heq⟩ | ⟨hfind, heq⟩
  · rw [heq] at hhandle ⊢
    rcases hhandle with rfl | hholds
    · obtain ⟨place, other, hlog, -⟩ := h.answered hfind
      exact h.holds hlog
    · exact hholds
  · rw [heq] at hhandle ⊢
    rcases hhandle with rfl | hholds
    · have hunused : written fresh log registry.unused = fresh :=
        h.written_of_not_lt (Nat.lt_irrefl _)
      change _ = some (written fresh log registry.unused)
      rw [hunused]
      exact List.getElem?_concat_length ..
    · rw [get?, environments_create,
        List.getElem?_append_left (List.getElem?_eq_some_iff.mp hholds).1]
      exact hholds

/-- A notebook that has just been looked up has the handle that was answered, and keeps it. -/
theorem found_iff_lookUp (h : Tells fresh log registry) (id : NotebookId) {place : Nat}
    {other : NotebookId} {handle : Handle}
    (hlog : (log ++ [.lookedUp id (registry.getOrCreate fresh id).2])[place]? =
      some (.lookedUp other handle)) :
    (registry.getOrCreate fresh id).1.find? other.name = some handle ↔
      Kept (log ++ [.lookedUp id (registry.getOrCreate fresh id).2]) other.name place := by
  have hfind := registry.find?_getOrCreate fresh id
  rcases (getElem?_concat_iff log _).mp hlog with hlog | ⟨rfl, heq⟩
  · rw [kept_concat_iff log _ (lt_length hlog), ← h.found_iff hlog, hfind]
    have hquiet : ∀ existed, Event.lookedUp id (registry.getOrCreate fresh id).2 ≠
        (.removed other.name existed : Event ε) := fun _ => nofun
    rw [and_iff_left hquiet]
    split
    · next heq => rw [Option.some.injEq, eq_comm, h.eq_getOrCreate_iff hlog, heq]
    · rfl
  · cases heq
    exact ⟨fun _ => kept_concat_length log _ _, fun _ => (hfind id.name).trans (if_pos rfl)⟩

/-- The handle that a lookup answers is that of no other notebook. -/
theorem owned_lookUp (h : Tells fresh log registry) (id : NotebookId) {place : Nat}
    {other : NotebookId} {handle : Handle} {name : String}
    (hlog : (log ++ [.lookedUp id (registry.getOrCreate fresh id).2])[place]? =
      some (.lookedUp other handle))
    (hname : (registry.getOrCreate fresh id).1.find? name = some handle) : name = other.name := by
  have hfind := registry.find?_getOrCreate fresh id
  rcases (getElem?_concat_iff log _).mp hlog with hlog | ⟨rfl, heq⟩
  · rw [hfind] at hname
    split at hname
    · next heq =>
        have hhandle : handle = (registry.getOrCreate fresh id).2 := (Option.some.inj hname).symm
        rw [heq]
        exact h.owned hlog ((h.eq_getOrCreate_iff hlog id).mp hhandle)
    · exact h.owned hlog hname
  · cases heq
    have hself := (hfind id.name).trans (if_pos rfl)
    exact eq_of_find? hname hself

/-- A lookup is answered the handle of an earlier one just if that was of the same notebook, which
was kept since. -/
theorem same_iff_lookUp (h : Tells fresh log registry) (id : NotebookId) {place later : Nat}
    {first other : NotebookId} {handle again : Handle}
    (hplace : (log ++ [Event.lookedUp id (registry.getOrCreate fresh id).2])[place]? =
      some (.lookedUp first handle))
    (hlater : (log ++ [Event.lookedUp id (registry.getOrCreate fresh id).2])[later]? =
      some (.lookedUp other again)) (hlt : place < later) :
    handle = again ↔ first = other ∧
      Kept ((log ++ [Event.lookedUp id (registry.getOrCreate fresh id).2]).take later) first.name
        place := by
  rcases (getElem?_concat_iff log _).mp hlater with hlater | ⟨rfl, heq⟩
  · rcases (getElem?_concat_iff log _).mp hplace with hplace | ⟨rfl, -⟩
    · exact h.same_iff_of_concat _ hplace hlater hlt
    · exact absurd hlt (Nat.not_lt.mpr (Nat.le_of_lt (lt_length hlater)))
  · cases heq
    rcases (getElem?_concat_iff log _).mp hplace with hplace | ⟨rfl, -⟩
    · rw [List.take_left, h.eq_getOrCreate_iff hplace, ← h.found_iff hplace]
      constructor
      · intro hfound
        have hname := h.owned hplace hfound
        have hsame : first = id := by
          cases first
          cases id
          cases hname
          rfl
        exact ⟨hsame, hsame ▸ hfound⟩
      · rintro ⟨rfl, hfound⟩
        exact hfound
    · exact absurd hlt (Nat.lt_irrefl _)

theorem lookUp (h : Tells fresh log registry) (id : NotebookId) :
    Tells fresh (log ++ [.lookedUp id (registry.getOrCreate fresh id).2])
      (registry.getOrCreate fresh id).1 := by
  constructor
  case answered =>
    intro name handle hname
    rw [registry.find?_getOrCreate fresh id] at hname
    split at hname
    · next heq =>
        cases hname
        exact ⟨log.length, id, (getElem?_concat_iff log _).mpr (.inr ⟨rfl, rfl⟩), heq.symm⟩
    · obtain ⟨place, other, hlog, hother⟩ := h.answered hname
      exact ⟨place, other, (getElem?_concat_iff log _).mpr (.inl hlog), hother⟩
  case found_iff => exact h.found_iff_lookUp id
  case owned => exact h.owned_lookUp id
  case same_iff => exact h.same_iff_lookUp id
  case holds =>
    intro place other handle hlog
    rw [written_concat]
    refine h.get?_getOrCreate id ?_
    rcases (getElem?_concat_iff log _).mp hlog with hlog | ⟨-, heq⟩
    · exact .inr (h.holds hlog)
    · cases heq
      exact .inl rfl
  case through =>
    intro handle update hwrote
    rcases List.mem_append.mp hwrote with hwrote | hwrote
    · refine Nat.lt_of_lt_of_le (h.through hwrote) ?_
      rcases registry.getOrCreate_cases fresh id with ⟨_, -, heq⟩ | ⟨_, heq⟩
      · rw [heq]
      · rw [heq, environments_create, List.length_append]
        exact Nat.le_add_right _ _
    · exact nomatch List.mem_singleton.mp hwrote

end Tells

/-! ## Generations -/

variable {fresh : ε} {log : List (Event ε)} {registry : Registry ε}

theorem History.tells (h : History fresh log registry) : Tells fresh log registry := by
  induction h with
  | start => exact .start
  | lookUp _ id ih => exact ih.lookUp id
  | remove _ name ih => exact ih.remove name _
  | ask _ name ih => exact ih.ask name _
  | count _ ih => exact ih.count _
  | write _ hheld update ih => exact ih.write hheld update

/-- What is answered after a log is what the log tells. -/
def AnsweredAfter (log : List (Event ε)) : Event ε → Prop
  | .removed name existed => existed = true ↔ InUse log name
  | .asked name present => present = true ↔ InUse log name
  | .counted size => size = {name | InUse log name}.ncard
  | .lookedUp _ _ | .wrote _ _ => True

/-- Every answer of a log is what the log told when it was given. -/
def Answered (log : List (Event ε)) : Prop :=
  ∀ place event, log[place]? = some event → AnsweredAfter (log.take place) event

theorem Answered.concat (h : Answered log) {event : Event ε} (hevent : AnsweredAfter log event) :
    Answered (log ++ [event]) := by
  intro place found hfound
  rcases (getElem?_concat_iff log event).mp hfound with hfound | ⟨rfl, rfl⟩
  · rw [List.take_append_of_le_length (Nat.le_of_lt (Tells.lt_length hfound))]
    exact h place found hfound
  · rw [List.take_left]
    exact hevent

theorem History.answered (h : History fresh log registry) : Answered log := by
  induction h with
  | start => exact fun _ _ => nofun
  | lookUp _ id ih => exact ih.concat trivial
  | remove hbefore name ih => exact ih.concat (hbefore.tells.contains_iff_inUse name)
  | ask hbefore name ih => exact ih.concat (hbefore.tells.contains_iff_inUse name)
  | count hbefore ih => exact ih.concat hbefore.tells.size_eq
  | write _ hheld update ih => exact ih.concat trivial

/-- A notebook in use is named as one. -/
theorem Tells.hasNotebookSuffix (h : Tells fresh log registry) {name : String}
    (hcontains : registry.contains name = true) : hasNotebookSuffix name = true := by
  obtain ⟨place, id, handle, -, rfl, -⟩ := (h.contains_iff_inUse name).mp hcontains
  exact id.hasSuffix

/-- The generations of environments.  Two lookups are answered one environment just if they name
one notebook and it was not removed between them.  An environment holds what was written through its
handles, all of one generation, and a write changes no other.  A notebook is in use just if it was
looked up since it was last removed; this is what removals, questions and counts are answered, and
every notebook in use is named as one. -/
theorem generations (h : History fresh log registry) :
    (∀ (place later : Nat) (id other : NotebookId) (handle again : Handle),
      log[place]? = some (.lookedUp id handle) → log[later]? = some (.lookedUp other again) →
        place < later → (handle = again ↔ id = other ∧ Kept (log.take later) id.name place)) ∧
    (∀ (place : Nat) (id : NotebookId) (handle : Handle),
      log[place]? = some (.lookedUp id handle) →
        registry.get? handle = some (written fresh log handle)) ∧
    (∀ (handle other : Handle) (update : ε → ε), handle ≠ other →
      (registry.modify handle update).get? other = registry.get? other) ∧
    (∀ name, registry.contains name = true ↔ InUse log name) ∧
    (∀ name, (registry.remove name).2 = true ↔ InUse log name) ∧
    registry.size = {name | InUse log name}.ncard ∧
    Answered log ∧
    ∀ name, registry.contains name = true → hasNotebookSuffix name = true := by
  have htells := h.tells
  refine ⟨fun _ _ _ _ _ _ => htells.same_iff, fun _ _ _ => htells.holds,
    fun handle other update hne => ?_, htells.contains_iff_inUse, htells.contains_iff_inUse,
    htells.size_eq, h.answered, fun _ => htells.hasNotebookSuffix⟩
  rw [get?_modify, if_neg hne]

/-- A handle is written through after its notebook was removed and looked up again. -/
theorem generations_recreated :
    let id : NotebookId := ⟨"a.unb", by decide⟩
    let push (n : Nat) (numbers : List Nat) : List Nat := numbers ++ [n]
    ∃ (registry : Registry (List Nat)) (log : List (Event (List Nat))),
      History [] log registry ∧
        log = [.lookedUp id ⟨0⟩, .wrote ⟨0⟩ (push 1), .removed "a.unb" true, .lookedUp id ⟨1⟩,
          .wrote ⟨0⟩ (push 2), .counted 1] ∧
        registry.get? ⟨0⟩ = some [1, 2] ∧ registry.get? ⟨1⟩ = some [] ∧
        (registry.contains "a.unb" = true ↔ InUse log "a.unb") := by
  intro id push
  have hfirst : History ([] : List Nat) [.lookedUp id ⟨0⟩] _ := History.start.lookUp id
  have hwritten := hfirst.write List.mem_cons_self (push 1)
  have hagain := (hwritten.remove "a.unb").lookUp id
  have hlast := (hagain.write List.mem_cons_self (push 2)).count
  obtain ⟨-, hholds, -, hcontains, -⟩ := generations hlast
  have hdetached := hholds 0 id ⟨0⟩ rfl
  have hnew := hholds 3 id ⟨1⟩ rfl
  exact ⟨_, _, hlast, rfl, hdetached, hnew, hcontains "a.unb"⟩

end Cellbook.Registry
