import Cellbook.Keyed
import Cellbook.Notebook.Name

/-!
# Registries

The environments of notebooks.  A notebook that is in use has one environment, reached by name; an
environment is held by a handle and outlives the notebook's removal for those who hold it.  A
notebook used again after it was removed has a new environment.
-/

namespace Cellbook

/-- What an environment is held by. -/
structure Handle where
  number : Nat
  deriving Repr, DecidableEq

/-- The environments of notebooks. -/
@[ext]
structure Registry (ε : Type) where
  /-- The notebooks in use, with the handles of their environments. -/
  live : List (NotebookId × Handle)
  /-- Every environment, by the number of its handle. -/
  environments : List ε
  /-- A notebook is in use once. -/
  names_nodup : (live.map fun entry => entry.1.name).Nodup
  /-- No two notebooks share an environment. -/
  handles_nodup : (live.map Prod.snd).Nodup
  /-- Every notebook in use has an environment. -/
  bounded : ∀ entry ∈ live, entry.2.number < environments.length

namespace Registry

variable {ε : Type}

/-- The registry with no notebooks in use. -/
def empty : Registry ε where
  live := []
  environments := []
  names_nodup := List.nodup_nil
  handles_nodup := List.nodup_nil
  bounded := nofun

/-- The handle of a notebook's environment. -/
def find? (registry : Registry ε) (name : String) : Option Handle :=
  (registry.live.find? fun entry => entry.1.name == name).map Prod.snd

theorem find?_eq_none_iff {registry : Registry ε} {name : String} :
    registry.find? name = none ↔ name ∉ registry.live.map fun entry => entry.1.name := by
  simp [find?, List.find?_eq_none]

/-- Whether a notebook is in use. -/
def contains (registry : Registry ε) (name : String) : Bool := (registry.find? name).isSome

theorem contains_iff_mem {registry : Registry ε} {name : String} :
    registry.contains name = true ↔ name ∈ registry.live.map fun entry => entry.1.name := by
  rw [contains, Option.isSome_iff_ne_none, ne_eq, find?_eq_none_iff, Decidable.not_not]

/-- The number of notebooks in use. -/
def size (registry : Registry ε) : Nat := registry.live.length

/-- The handle that no environment has yet. -/
def unused (registry : Registry ε) : Handle := ⟨registry.environments.length⟩

theorem unused_notMem (registry : Registry ε) : registry.unused ∉ registry.live.map Prod.snd := by
  intro hmem
  obtain ⟨entry, hentry, heq⟩ := List.mem_map.mp hmem
  have hlt := registry.bounded entry hentry
  rw [heq] at hlt
  exact Nat.lt_irrefl _ hlt

/-- Takes a notebook into use, with an environment of its own. -/
def create (registry : Registry ε) (fresh : ε) (id : NotebookId)
    (h : registry.find? id.name = none) : Registry ε where
  live := registry.live ++ [(id, registry.unused)]
  environments := registry.environments ++ [fresh]
  names_nodup := by
    rw [List.map_append]
    exact Keyed.nodup_concat registry.names_nodup (find?_eq_none_iff.mp h)
  handles_nodup := by
    rw [List.map_append]
    exact Keyed.nodup_concat registry.handles_nodup registry.unused_notMem
  bounded entry hentry := by
    rw [List.length_append]
    rcases List.mem_append.mp hentry with hentry | hentry
    · exact Nat.lt_add_right _ (registry.bounded entry hentry)
    · rw [List.mem_singleton.mp hentry]
      exact Nat.lt_succ_self _

@[simp] theorem environments_create (registry : Registry ε) (fresh : ε) (id : NotebookId)
    (h : registry.find? id.name = none) :
    (registry.create fresh id h).environments = registry.environments ++ [fresh] := rfl

/-- The handle of a notebook's environment, which is `fresh` on first use. -/
def getOrCreate (registry : Registry ε) (fresh : ε) (id : NotebookId) : Registry ε × Handle :=
  match h : registry.find? id.name with
  | some handle => (registry, handle)
  | none => (registry.create fresh id h, registry.unused)

/-- The environment that a handle holds. -/
def get? (registry : Registry ε) (handle : Handle) : Option ε :=
  registry.environments[handle.number]?

/-- Sets the environment that a handle holds. -/
def set (registry : Registry ε) (handle : Handle) (environment : ε) : Registry ε :=
  { registry with
    environments := registry.environments.set handle.number environment
    bounded := fun entry hentry => by
      rw [List.length_set]
      exact registry.bounded entry hentry }

/-- Takes a notebook out of use; answers whether it was in use. -/
def remove (registry : Registry ε) (name : String) : Registry ε × Bool :=
  ({ registry with
      live := registry.live.filter fun entry => entry.1.name != name
      names_nodup := registry.names_nodup.sublist (List.filter_sublist.map _)
      handles_nodup := registry.handles_nodup.sublist (List.filter_sublist.map _)
      bounded := fun entry hentry => registry.bounded entry ((List.mem_filter.mp hentry).1) },
    registry.contains name)

end Registry

end Cellbook
