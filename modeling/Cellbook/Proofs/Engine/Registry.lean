import Cellbook.Proofs.Engine.Course
import Mathlib.Data.List.Nodup

/-!
# Lookup, execution and removal

What each step of an engine does to the handles that notebooks have and to the environments that
handles hold.  A lookup changes no environment, an execution changes no handle and one environment,
and a removal changes one handle and no environment.

* In every registry a handle leads to one notebook (`Registry.eq_of_find?`) and holds an environment
  (`Registry.lt_of_find?`), so that the steps below ask for no more than the handle.
* `Engine.environment?` is what of an engine can be told apart by its notebooks, their names and
  their environments without the handles between them.
-/

namespace Cellbook

variable {ε ν σ : Type}

/-! ## Handles -/

namespace Registry

variable (registry : Registry ε)

/-- A removal takes away the handle of the notebook removed and no other. -/
theorem find?_remove (removed name : String) :
    (registry.remove removed).1.find? name =
      if name = removed then none else registry.find? name := by
  simp only [find?, remove, List.find?_filter]
  by_cases h : name = removed
  · rw [if_pos h, h, List.find?_eq_none.mpr (by simp), Option.map_none]
  · rw [if_neg h]
    congr 2
    funext entry
    by_cases hentry : entry.1.name = name
    · simp [hentry, h]
    · simp [hentry]

variable {registry}

theorem exists_of_find? {name : String} {handle : Handle} (h : registry.find? name = some handle) :
    ∃ id : NotebookId, (id, handle) ∈ registry.live ∧ id.name = name := by
  obtain ⟨⟨id, held⟩, hentry, rfl⟩ := Option.map_eq_some_iff.mp h
  exact ⟨id, List.mem_of_find?_eq_some hentry, by simpa using List.find?_some hentry⟩

/-- The handles of notebooks hold environments. -/
theorem lt_of_find? {name : String} {handle : Handle} (h : registry.find? name = some handle) :
    handle.number < registry.environments.length := by
  obtain ⟨id, hentry, -⟩ := exists_of_find? h
  exact registry.bounded _ hentry

/-- A handle is that of one notebook. -/
theorem eq_of_find? {name other : String} {handle : Handle}
    (h : registry.find? name = some handle) (hother : registry.find? other = some handle) :
    name = other := by
  obtain ⟨id, hentry, rfl⟩ := exists_of_find? h
  obtain ⟨id', hentry', rfl⟩ := exists_of_find? hother
  have hsame := List.inj_on_of_nodup_map registry.handles_nodup hentry hentry' rfl
  exact congrArg (fun entry => entry.1.name) hsame

variable (registry)

theorem find?_create (fresh : ε) (id : NotebookId) (h : registry.find? id.name = none)
    (name : String) :
    (registry.create fresh id h).find? name =
      if name = id.name then some registry.unused else registry.find? name := by
  simp only [find?, create, List.find?_append, Option.map_or]
  split
  · next hname =>
      subst hname
      rw [find?] at h
      simp [h]
  · next hname => simp [Ne.symm hname]

/-- A lookup either finds the handle, and leaves all as it is, or creates an environment. -/
theorem getOrCreate_cases (fresh : ε) (id : NotebookId) :
    (∃ handle, registry.find? id.name = some handle ∧
        registry.getOrCreate fresh id = (registry, handle)) ∨
      ∃ h : registry.find? id.name = none,
        registry.getOrCreate fresh id = (registry.create fresh id h, registry.unused) := by
  unfold getOrCreate
  split
  · next handle hfind => exact .inl ⟨handle, hfind, rfl⟩
  · next hfind => exact .inr ⟨hfind, rfl⟩

/-- After a lookup the notebook has the handle that was answered, and others have theirs. -/
theorem find?_getOrCreate (fresh : ε) (id : NotebookId) (name : String) :
    (registry.getOrCreate fresh id).1.find? name =
      if name = id.name then some (registry.getOrCreate fresh id).2 else registry.find? name := by
  rcases registry.getOrCreate_cases fresh id with ⟨handle, hfind, heq⟩ | ⟨hfind, heq⟩
  · rw [heq]
    split
    · next h => rw [h, hfind]
    · rfl
  · rw [heq]
    exact registry.find?_create fresh id hfind name

end Registry

/-! ## Environments -/

/-- Executes a cell in an environment and sends what comes of it onto a channel. -/
def Evaluator.executeIn [Represent ν] (evaluator : Evaluator ε ν) (channel : Channel σ)
    (environment : ε) (source : String) (state : σ) : Executed ε σ :=
  (evaluator.callCell (CellParts.ofSource source) environment).deliver channel ⟨state, false⟩

/-- A blank cell leaves all as it is. -/
theorem Evaluator.executeIn_of_isEmpty [Represent ν] (evaluator : Evaluator ε ν)
    (channel : Channel σ) (environment : ε) {source : String}
    (h : (CellParts.ofSource source).isEmpty = true) (state : σ) :
    evaluator.executeIn channel environment source state = ⟨environment, state, .ok ()⟩ := by
  rw [executeIn, evaluator.callCell_of_isEmpty h]
  rfl

namespace Engine

variable (engine : Engine ε ν)

/-- The environment of a notebook, if it has one. -/
def environment? (name : String) : Option ε :=
  (engine.registry.find? name).map engine.environment

@[simp] theorem isSome_environment? (name : String) :
    (engine.environment? name).isSome = engine.isRunning name := by
  rw [environment?, Option.isSome_map]
  rfl

/-- A new environment is what an unused handle stands for, so a lookup changes none. -/
@[simp] theorem environment_lookUp (id : NotebookId) (handle : Handle) :
    (engine.lookUp id).1.environment handle = engine.environment handle := by
  simp only [environment, lookUp, Registry.get?]
  rcases engine.registry.getOrCreate_cases engine.evaluator.fresh id with ⟨_, -, heq⟩ | ⟨_, heq⟩
  · rw [heq]
  · rw [heq, Registry.environments_create, List.getElem?_append]
    split
    · rfl
    · next h =>
        rw [List.getElem?_eq_none (Nat.le_of_not_lt h), List.getElem?_singleton]
        split <;> rfl

/-- The handle looked up holds the notebook's environment, or a fresh one. -/
theorem environment_handle_lookUp (id : NotebookId) :
    engine.environment (engine.lookUp id).2 =
      (engine.environment? id.name).getD engine.evaluator.fresh := by
  simp only [environment?, lookUp]
  rcases engine.registry.getOrCreate_cases engine.evaluator.fresh id with
    ⟨handle, hfind, heq⟩ | ⟨hfind, heq⟩
  · rw [heq, hfind]
    rfl
  · rw [heq, hfind]
    simp [environment, Registry.get?, Registry.unused]

/-- A cell is executed in the environment of its notebook, or in a fresh one. -/
theorem environmentOf_eq (id : NotebookId) :
    engine.environmentOf id = (engine.environment? id.name).getD engine.evaluator.fresh := by
  rw [← environment_handle_lookUp, ← engine.environment_lookUp id]
  rfl

theorem find?_lookUp (id : NotebookId) (name : String) :
    (engine.lookUp id).1.registry.find? name =
      if name = id.name then some (engine.lookUp id).2 else engine.registry.find? name :=
  engine.registry.find?_getOrCreate engine.evaluator.fresh id name

/-- The handle looked up is the notebook's, or one out of the bounds of all before. -/
theorem lookUp_cases (id : NotebookId) :
    engine.registry.find? id.name = some (engine.lookUp id).2 ∨
      engine.registry.find? id.name = none ∧
        (engine.lookUp id).2.number = engine.registry.environments.length := by
  simp only [lookUp]
  rcases engine.registry.getOrCreate_cases engine.evaluator.fresh id with
    ⟨handle, hfind, heq⟩ | ⟨hfind, heq⟩
  · rw [heq]
    exact .inl hfind
  · rw [heq]
    exact .inr ⟨hfind, rfl⟩

theorem length_le_lookUp (id : NotebookId) :
    engine.registry.environments.length ≤
      (engine.lookUp id).1.registry.environments.length := by
  simp only [lookUp]
  rcases engine.registry.getOrCreate_cases engine.evaluator.fresh id with ⟨_, -, heq⟩ | ⟨_, heq⟩
  · exact Nat.le_of_eq (congrArg (fun looked => looked.1.environments.length) heq.symm)
  · rw [heq, Registry.environments_create, List.length_append]
    exact Nat.le_add_right _ _

/-- The handle looked up holds an environment. -/
theorem handle_lookUp_lt (id : NotebookId) :
    (engine.lookUp id).2.number < (engine.lookUp id).1.registry.environments.length :=
  Registry.lt_of_find? ((engine.find?_lookUp id id.name).trans (if_pos rfl))

/-- The engine with another environment under a handle. -/
def setEnvironment (handle : Handle) (environment : ε) : Engine ε ν :=
  { engine with registry := engine.registry.set handle environment }

@[simp] theorem evaluator_setEnvironment (handle : Handle) (environment : ε) :
    (engine.setEnvironment handle environment).evaluator = engine.evaluator := rfl

@[simp] theorem find?_setEnvironment (handle : Handle) (environment : ε) (name : String) :
    (engine.setEnvironment handle environment).registry.find? name =
      engine.registry.find? name := rfl

/-- Setting an environment changes it and no other. -/
theorem environment_setEnvironment {handle : Handle}
    (h : handle.number < engine.registry.environments.length) (environment : ε) (other : Handle) :
    (engine.setEnvironment handle environment).environment other =
      if other = handle then environment else engine.environment other := by
  rw [setEnvironment, Engine.environment, Registry.set, Registry.get?]
  split
  · next heq => simp [heq, h]
  · next hne =>
      have hnumber : handle.number ≠ other.number := fun heq => hne (congrArg Handle.mk heq.symm)
      rw [List.getElem?_set_ne hnumber]
      rfl

/-- Setting an environment to what it is changes nothing. -/
theorem setEnvironment_environment (handle : Handle) :
    engine.setEnvironment handle (engine.environment handle) = engine := by
  have henvironments : engine.registry.environments.set handle.number (engine.environment handle) =
      engine.registry.environments := by
    rw [environment, Registry.get?]
    by_cases h : handle.number < engine.registry.environments.length
    · rw [List.getElem?_eq_getElem h, Option.getD_some, List.set_getElem_self]
    · rw [List.set_eq_of_length_le (Nat.le_of_not_lt h)]
  exact congrArg (mk engine.evaluator) (Registry.ext rfl henvironments)

/-- An execution, of a blank cell too, sets the environment to what the cell leaves. -/
theorem executeAt_eq [Represent ν] (channel : Channel σ) (handle : Handle) (source : String)
    (state : σ) :
    engine.executeAt channel handle source state =
      let executed := engine.evaluator.executeIn channel (engine.environment handle) source state
      (engine.setEnvironment handle executed.environment, executed.state, executed.outcome) := by
  rw [executeAt]
  dsimp only
  split
  · next hblank => rw [engine.evaluator.executeIn_of_isEmpty _ _ hblank, setEnvironment_environment]
  · rw [Evaluator.execute_eq_deliver]
    rfl

/-! ## Live handles -/

/-- A lookup leads no name to or away from a handle that was there before. -/
theorem find?_lookUp_eq_some_iff {handle : Handle}
    (h : handle.number < engine.registry.environments.length) (id : NotebookId) (name : String) :
    (engine.lookUp id).1.registry.find? name = some handle ↔
      engine.registry.find? name = some handle := by
  rw [find?_lookUp]
  split
  · next heq =>
      subst heq
      rcases engine.lookUp_cases id with hfind | ⟨hfind, hlength⟩
      · rw [hfind]
      · rw [hfind]
        constructor
        · intro hsome
          cases hsome
          exact absurd h (hlength ▸ Nat.lt_irrefl _)
        · exact nofun
  · rfl

theorem find?_stop_eq_some_iff (stopped name : String) (handle : Handle) :
    (engine.stop stopped).1.registry.find? name = some handle ↔
      name ≠ stopped ∧ engine.registry.find? name = some handle := by
  rw [stop, Registry.find?_remove]
  split
  · next heq => exact ⟨nofun, fun h => absurd heq h.1⟩
  · next hne => exact ⟨fun h => ⟨hne, h⟩, And.right⟩

/-- Some notebook has the environment that a handle holds. -/
def Live (handle : Handle) : Prop := ∃ name, engine.registry.find? name = some handle

/-- Setting an environment makes no handle live and none dead. -/
theorem live_setEnvironment_iff (handle : Handle) (environment : ε) (other : Handle) :
    (engine.setEnvironment handle environment).Live other ↔ engine.Live other := Iff.rfl

theorem live_lookUp_self (id : NotebookId) : (engine.lookUp id).1.Live (engine.lookUp id).2 :=
  ⟨id.name, (engine.find?_lookUp id id.name).trans (if_pos rfl)⟩

/-- A lookup makes no handle live that was there before, and none dead. -/
theorem live_lookUp_iff {handle : Handle}
    (h : handle.number < engine.registry.environments.length) (id : NotebookId) :
    (engine.lookUp id).1.Live handle ↔ engine.Live handle :=
  exists_congr fun name => engine.find?_lookUp_eq_some_iff h id name

/-- A stop makes the handle of the notebook dead and no other. -/
theorem live_stop_iff (name : String) (handle : Handle) :
    (engine.stop name).1.Live handle ↔
      engine.Live handle ∧ engine.registry.find? name ≠ some handle := by
  constructor
  · rintro ⟨other, hother⟩
    rw [find?_stop_eq_some_iff] at hother
    exact ⟨⟨other, hother.2⟩, fun hname => hother.1 (Registry.eq_of_find? hother.2 hname)⟩
  · rintro ⟨⟨other, hother⟩, hname⟩
    refine ⟨other, (engine.find?_stop_eq_some_iff name other handle).mpr ⟨?_, hother⟩⟩
    rintro rfl
    exact hname hother

end Engine

end Cellbook
