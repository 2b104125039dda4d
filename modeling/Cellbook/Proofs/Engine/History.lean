import Cellbook.Proofs.Engine.Registry
import Mathlib.Data.List.Induction

/-!
# Histories of runs and stops

What an engine answers to calls that come one after another.  The calls of a history act on the
environments of notebooks by name (`Environments.after`), and the engine, with its registry and its
handles, does no more than that (`Engine.performAll_eq`).

So a notebook sees only its own runs since it was last stopped: from them alone follow whether it is
running, what its next run is answered, and in which environment it ends (`Engine.run_eq_replay`).
-/

namespace Cellbook

variable {ε ν σ ρ τ : Type}

/-! ## Calls -/

/-- What is asked of an engine. -/
inductive Call (σ : Type) where
  /-- A run of a cell, whose sends go onto a channel in some state. -/
  | run (id : NotebookId) (source : String) (channel : Channel σ) (state : σ)
  | stop (name : String)

/-- What a call is answered. -/
inductive Answer (σ : Type) where
  /-- The state in which a run leaves its channel, and how it ends. -/
  | ran (state : σ) (outcome : Except CellFault Unit)
  /-- Whether the notebook stopped had an environment. -/
  | stopped (existed : Bool)

namespace Engine

/-- Does what is asked. -/
def perform [Represent ν] (engine : Engine ε ν) : Call σ → Engine ε ν × Answer σ
  | .run id source channel state =>
    let (engine, state, outcome) := engine.run channel id source state
    (engine, .ran state outcome)
  | .stop name =>
    let (engine, existed) := engine.stop name
    (engine, .stopped existed)

/-- Does what is asked, one call after another. -/
def performAll [Represent ν] (engine : Engine ε ν) : List (Call σ) → Engine ε ν × List (Answer σ)
  | [] => (engine, [])
  | call :: calls =>
    let (engine, answer) := engine.perform call
    let (engine, answers) := engine.performAll calls
    (engine, answer :: answers)

end Engine

/-! ## Environments by name -/

/-- The environments of the notebooks that have one. -/
abbrev Environments (ε : Type) := String → Option ε

namespace Evaluator

variable [Represent ν] (evaluator : Evaluator ε ν)

/-- What a call does to the environments of notebooks, and what it is answered. -/
def perform (environments : Environments ε) : Call σ → Environments ε × Answer σ
  | .run id source channel state =>
    let environment := (environments id.name).getD evaluator.fresh
    let executed := evaluator.executeIn channel environment source state
    (Function.update environments id.name (some executed.environment),
      .ran executed.state executed.outcome)
  | .stop name => (Function.update environments name none, .stopped (environments name).isSome)

/-- What calls do to the environments of notebooks one after another, and what they are answered. -/
def performAll (environments : Environments ε) : List (Call σ) → Environments ε × List (Answer σ)
  | [] => (environments, [])
  | call :: calls =>
    let (environments, answer) := evaluator.perform environments call
    let (environments, answers) := performAll environments calls
    (environments, answer :: answers)

theorem performAll_append (environments : Environments ε) (calls more : List (Call σ)) :
    evaluator.performAll environments (calls ++ more) =
      let first := evaluator.performAll environments calls
      let second := evaluator.performAll first.1 more
      (second.1, first.2 ++ second.2) := by
  induction calls generalizing environments with
  | nil => rfl
  | cons call calls ih => simp [performAll, ih]

/-- Runs of a notebook change its environment only, and leave it one. -/
theorem performAll_runs {name : String} {calls : List (Call σ)}
    (h : ∀ call ∈ calls, ∃ id source channel state,
      call = .run id source channel state ∧ id.name = name)
    (environments : Environments ε) :
    Function.update (evaluator.performAll environments calls).1 name none =
        Function.update environments name none ∧
      ((evaluator.performAll environments calls).1 name = none →
        environments name = none ∧ calls = []) := by
  induction calls generalizing environments with
  | nil => exact ⟨rfl, fun hnone => ⟨hnone, rfl⟩⟩
  | cons call calls ih =>
      rw [List.forall_mem_cons] at h
      obtain ⟨⟨id, source, channel, state, rfl, rfl⟩, h⟩ := h
      obtain ⟨hupdate, hnone⟩ := ih h (evaluator.perform environments
        (.run id source channel state)).1
      refine ⟨hupdate.trans (Function.update_idem _ _ _), fun hrest => ?_⟩
      exact nomatch (Function.update_self _ _ _).symm.trans (hnone hrest).1

end Evaluator

namespace Engine

variable (engine : Engine ε ν)

/-- A run executes its cell in the environment of its notebook, and sets it to what the
cell leaves. -/
theorem run_eq [Represent ν] (channel : Channel σ) (id : NotebookId) (source : String) (state : σ) :
    engine.run channel id source state =
      let executed := engine.evaluator.executeIn channel (engine.environmentOf id) source state
      let (engine, handle) := engine.lookUp id
      (engine.setEnvironment handle executed.environment, executed.state, executed.outcome) :=
  (engine.lookUp id).1.executeAt_eq channel (engine.lookUp id).2 source state

@[simp] theorem evaluator_perform [Represent ν] (call : Call σ) :
    (engine.perform call).1.evaluator = engine.evaluator := by
  cases call with
  | run id source channel state =>
      rw [perform, run_eq]
      rfl
  | stop name => rfl

/-- A lookup gives the notebook an environment, a fresh one where it had none. -/
theorem environment?_lookUp (id : NotebookId) :
    (engine.lookUp id).1.environment? =
      Function.update engine.environment? id.name (some (engine.environmentOf id)) := by
  funext name
  rw [environment?, find?_lookUp]
  by_cases h : name = id.name
  · rw [if_pos h, h, Function.update_self]
    rfl
  · rw [if_neg h, Function.update_of_ne h, environment?]
    exact Option.map_congr fun handle _ => engine.environment_lookUp id handle

/-- An execution under a live handle changes the environment of the notebook that has it. -/
theorem environment?_setEnvironment {name : String} {handle : Handle}
    (hfind : engine.registry.find? name = some handle) (environment : ε) :
    (engine.setEnvironment handle environment).environment? =
      Function.update engine.environment? name (some environment) := by
  funext other
  rw [environment?, find?_setEnvironment]
  by_cases hother : other = name
  · rw [hother, hfind, Function.update_self, Option.map_some,
      engine.environment_setEnvironment (Registry.lt_of_find? hfind), if_pos rfl]
  · rw [Function.update_of_ne hother, environment?]
    refine Option.map_congr fun held hheld => ?_
    rw [engine.environment_setEnvironment (Registry.lt_of_find? hfind), if_neg]
    rintro rfl
    exact hother (Registry.eq_of_find? hheld hfind)

theorem environment?_stop (name : String) :
    (engine.stop name).1.environment? = Function.update engine.environment? name none := by
  funext other
  rw [environment?, stop, Registry.find?_remove]
  by_cases h : other = name
  · rw [if_pos h, h, Function.update_self]
    rfl
  · rw [if_neg h, Function.update_of_ne h]
    rfl

/-- A run leaves its notebook the environment that its cell leaves, and others theirs. -/
theorem environment?_run [Represent ν] (channel : Channel σ) (id : NotebookId) (source : String)
    (state : σ) :
    (engine.run channel id source state).1.environment? =
      let executed := engine.evaluator.executeIn channel (engine.environmentOf id) source state
      Function.update engine.environment? id.name (some executed.environment) := by
  have hfind : (engine.lookUp id).1.registry.find? id.name = some (engine.lookUp id).2 :=
    (engine.find?_lookUp id id.name).trans (if_pos rfl)
  rw [run_eq]
  dsimp only
  rw [environment?_setEnvironment _ hfind, environment?_lookUp, Function.update_idem]

/-- A call does to an engine what it does to the environments of its notebooks. -/
theorem perform_eq [Represent ν] (call : Call σ) :
    engine.evaluator.perform engine.environment? call =
      ((engine.perform call).1.environment?, (engine.perform call).2) := by
  cases call with
  | run id source channel state =>
      rw [perform, Evaluator.perform, environment?_run, run_eq, environmentOf_eq]
  | stop name =>
      rw [Evaluator.perform, isSome_environment?, ← environment?_stop]
      rfl

@[simp] theorem evaluator_performAll [Represent ν] (calls : List (Call σ)) :
    (engine.performAll calls).1.evaluator = engine.evaluator := by
  induction calls generalizing engine with
  | nil => rfl
  | cons call calls ih => exact (ih _).trans (engine.evaluator_perform call)

/-- Calls do to an engine what they do to the environments of its notebooks. -/
theorem performAll_eq [Represent ν] (calls : List (Call σ)) :
    engine.evaluator.performAll engine.environment? calls =
      ((engine.performAll calls).1.environment?, (engine.performAll calls).2) := by
  induction calls generalizing engine with
  | nil => rfl
  | cons call calls ih =>
      have hcalls := ih (engine.perform call).1
      rw [evaluator_perform] at hcalls
      rw [Evaluator.performAll, engine.perform_eq]
      dsimp only
      rw [hcalls]
      rfl

end Engine

/-! ## Replay -/

namespace Call

/-- Whether a call stops a notebook. -/
def isStop (name : String) : Call σ → Bool
  | .run _ _ _ _ => false
  | .stop stopped => stopped == name

/-- The source of a run of a notebook. -/
def source? (name : String) : Call σ → Option String
  | .run id source _ _ => if id.name = name then some source else none
  | .stop _ => none

end Call

/-- The sources of the runs of a notebook since it was last stopped, in order. -/
def runsSince (name : String) (history : List (Call σ)) : List String :=
  ((history.reverse.takeWhile fun call => !call.isStop name).reverse).filterMap (Call.source? name)

theorem runsSince_concat (name : String) (history : List (Call σ)) (call : Call σ) :
    runsSince name (history ++ [call]) =
      if call.isStop name then [] else runsSince name history ++ (call.source? name).toList := by
  rw [runsSince, List.reverse_append, List.reverse_singleton, List.singleton_append,
    List.takeWhile_cons]
  cases call.isStop name with
  | false =>
      simp only [Bool.not_false, if_true, Bool.false_eq_true, if_false, List.reverse_cons,
        List.filterMap_append]
      rfl
  | true => rfl

example : runsSince "a.unb" [.run ⟨"a.unb", rfl⟩ "one" bufferChannel [], .stop "a.unb",
    .run ⟨"a.unb", rfl⟩ "" bufferChannel [], .run ⟨"b.unb", rfl⟩ "two" bufferChannel [],
    .run ⟨"a.unb", rfl⟩ "three" bufferChannel [], .stop "b.unb"] = ["", "three"] := by decide

/-- All runs of a history of runs of one notebook count. -/
theorem runsSince_map_run (id : NotebookId) (channel : Channel σ) (state : σ)
    (sources : List String) :
    runsSince id.name (sources.map fun source => Call.run id source channel state) = sources := by
  induction sources using List.reverseRecOn with
  | nil => rfl
  | append_singleton sources source ih =>
      rw [List.map_append, List.map_singleton, runsSince_concat, ih]
      simp [Call.isStop, Call.source?]

namespace Evaluator

variable (evaluator : Evaluator ε ν)

/-- The environment that cells leave, one after another, of a notebook that had none. -/
def replay (sources : List String) : Option ε :=
  sources.foldl (fun environment? source => some (evaluator.callCell (CellParts.ofSource source)
    (environment?.getD evaluator.fresh)).environment) none

/-- One cell more leaves what it makes of the environment that those before it leave. -/
theorem replay_concat (sources : List String) (source : String) :
    evaluator.replay (sources ++ [source]) = some (evaluator.callCell (CellParts.ofSource source)
      ((evaluator.replay sources).getD evaluator.fresh)).environment :=
  List.foldl_concat ..

theorem replay_eq_none_iff {sources : List String} :
    evaluator.replay sources = none ↔ sources = [] := by
  rcases List.eq_nil_or_concat sources with rfl | ⟨sources, source, rfl⟩
  · exact ⟨fun _ => rfl, fun _ => rfl⟩
  · simp [replay]

/-- After a history a notebook has the environment that its runs since the last stop leave. -/
theorem performAll_eq_replay [Represent ν] (history : List (Call σ)) (name : String) :
    (evaluator.performAll (fun _ => none) history).1 name =
      evaluator.replay (runsSince name history) := by
  induction history using List.reverseRecOn with
  | nil => rfl
  | append_singleton history call ih =>
      rw [performAll_append, runsSince_concat]
      simp only [performAll]
      cases call with
      | run id source channel state =>
          rw [perform]
          by_cases h : id.name = name
          · subst h
            simp [Call.isStop, Call.source?, ih, replay_concat, executeIn]
          · simp [Call.isStop, Call.source?, ih, h, Function.update_of_ne (Ne.symm h)]
      | stop stopped =>
          rw [perform]
          by_cases h : stopped = name
          · simp [Call.isStop, h, replay]
          · simp [Call.isStop, Call.source?, ih, h, Function.update_of_ne (Ne.symm h)]

end Evaluator

namespace Engine

/-- After a history, whatever it was made of, the environment of a notebook is a replay. -/
theorem environment?_performAll [Represent ν] (evaluator : Evaluator ε ν) (history : List (Call σ))
    (name : String) :
    ((new evaluator).performAll history).1.environment? name =
      evaluator.replay (runsSince name history) := by
  have h := (new evaluator).performAll_eq history
  rw [← evaluator.performAll_eq_replay]
  exact (congrFun (congrArg Prod.fst h) name).symm

/-- The replay law.  The next run of a notebook, on any channel, is answered and leaves the
notebook's environment as it would on a new engine on which nothing happened but the notebook's runs
since it was last stopped, whatever channels those are sent onto; that environment is the one which
the cells of these runs and of the next leave one after another.  Until then each notebook has the
environment that its runs since it was last stopped leave; and it is running, as stopping it
answers, just if there were such runs. -/
theorem run_eq_replay [Represent ν] (evaluator : Evaluator ε ν) (history : List (Call σ))
    (id : NotebookId) (source : String) (channel : Channel ρ) (state : ρ) (elsewhere : Channel τ)
    (start : τ) :
    let engine := ((new evaluator).performAll history).1
    let runs := (runsSince id.name history).map fun source => Call.run id source elsewhere start
    let replayed := ((new evaluator).performAll runs).1
    (engine.run channel id source state).2 = (replayed.run channel id source state).2 ∧
      (engine.run channel id source state).1.environment? id.name =
        (replayed.run channel id source state).1.environment? id.name ∧
      (engine.run channel id source state).1.environment? id.name =
        evaluator.replay (runsSince id.name history ++ [source]) ∧
      ∀ name, engine.environment? name = evaluator.replay (runsSince name history) ∧
        (engine.isRunning name = true ↔ runsSince name history ≠ []) ∧
        (engine.stop name).2 = engine.isRunning name := by
  intro engine runs replayed
  have hfrom : engine.environmentOf id = replayed.environmentOf id := by
    rw [environmentOf_eq, environmentOf_eq, environment?_performAll, environment?_performAll,
      evaluator_performAll, evaluator_performAll, runsSince_map_run]
  have hlanguage : engine.evaluator = replayed.evaluator := by
    rw [evaluator_performAll, evaluator_performAll]
  have hrun : (engine.run channel id source state).1.environment? id.name =
      evaluator.replay (runsSince id.name history ++ [source]) := by
    rw [environment?_run, evaluator_performAll, environmentOf_eq, environment?_performAll,
      evaluator_performAll, evaluator.replay_concat]
    simp only [Function.update_self, Evaluator.executeIn, Called.deliver_environment]
    rfl
  refine ⟨?_, ?_, hrun, fun name => ⟨environment?_performAll evaluator history name, ?_, rfl⟩⟩
  · rw [run_eq, run_eq, hfrom, hlanguage]
  · rw [environment?_run, environment?_run, hfrom, hlanguage]
    simp only [Function.update_self]
  · rw [← isSome_environment?, environment?_performAll, ne_eq, ← evaluator.replay_eq_none_iff,
      Option.isSome_iff_ne_none]

end Engine

end Cellbook
