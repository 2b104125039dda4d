import Cellbook.Proofs.Engine.History

/-!
# Interleaved runs and stops

Calls of an engine that overlap.  A run is two steps, the lookup of the notebook's environment and
the execution of the cell in it, and a stop is one; a blank cell is not executed, so that its run is
over with the lookup.  Between the steps of a call any steps of other calls may fall.

A run that has looked an environment up holds it, whatever becomes of the notebook.  Once the
notebook is stopped no name leads to that environment any more (`Interleaved.Detached`), and what
the runs that still hold it do is seen by none but them.
-/

namespace Cellbook

variable {ε ν σ ι : Type}

/-! ## Steps -/

/-- How far a call has come. -/
inductive Stage (σ : Type) where
  | waiting
  /-- A run that has looked its environment up and has not executed its cell. -/
  | holding (handle : Handle)
  | answered (answer : Answer σ)

/-- A step of a call. -/
inductive Step (ι : Type) where
  /-- The only step of a stop, and the lookup of a run. -/
  | start (call : ι)
  /-- The execution of a run. -/
  | finish (call : ι)

/-- The call whose step it is. -/
def Step.call : Step ι → ι
  | .start call => call
  | .finish call => call

/-- An engine and how far the calls of it have come. -/
structure Interleaved (ε ν σ ι : Type) where
  engine : Engine ε ν
  stage : ι → Stage σ

namespace Interleaved

/-- A new engine, before any call of it. -/
def new (evaluator : Evaluator ε ν) : Interleaved ε ν σ ι := ⟨.new evaluator, fun _ => .waiting⟩

theorem ne_holding_of_waiting (now : Interleaved ε ν σ ι) {i : ι} (h : now.stage i = .waiting)
    (handle : Handle) : now.stage i ≠ .holding handle := by
  rw [h]
  simp

/-- Every call that was begun has been answered. -/
def Settled (now : Interleaved ε ν σ ι) : Prop := ∀ i handle, now.stage i ≠ .holding handle

section Steps

variable [DecidableEq ι] (now : Interleaved ε ν σ ι)

/-- The engine and how far a call has come after a step of the call. -/
def put (engine : Engine ε ν) (i : ι) (stage : Stage σ) : Interleaved ε ν σ ι :=
  ⟨engine, Function.update now.stage i stage⟩

@[simp] theorem engine_put (engine : Engine ε ν) (i : ι) (stage : Stage σ) :
    (now.put engine i stage).engine = engine := rfl

@[simp] theorem stage_put_self (engine : Engine ε ν) (i : ι) (stage : Stage σ) :
    (now.put engine i stage).stage i = stage := Function.update_self _ _ _

@[simp] theorem stage_put_of_ne (engine : Engine ε ν) {i j : ι} (h : j ≠ i) (stage : Stage σ) :
    (now.put engine i stage).stage j = now.stage j := Function.update_of_ne h _ _

@[simp] theorem put_put (engine other : Engine ε ν) (i : ι) (stage last : Stage σ) :
    (now.put engine i stage).put other i last = now.put other i last := by
  rw [put, put, put, Function.update_idem]

/-- A run goes on to hold what it holds when another call takes a step. -/
theorem stage_put_of_holding (engine : Engine ε ν) {i j : ι} {handle : Handle} (stage : Stage σ)
    (hj : now.stage j = .holding handle) (hi : now.stage i ≠ .holding handle) :
    (now.put engine i stage).stage j = .holding handle := by
  rw [now.stage_put_of_ne _ _ stage, hj]
  rintro rfl
  exact hi hj

/-- A call that is answered as it begins leaves what runs hold as it was. -/
theorem stage_put_answered_iff (engine : Engine ε ν) {i : ι} (h : now.stage i = .waiting)
    (answer : Answer σ) (j : ι) (handle : Handle) :
    (now.put engine i (.answered answer)).stage j = .holding handle ↔
      now.stage j = .holding handle := by
  by_cases hij : j = i
  · subst hij
    rw [stage_put_self, h]
    simp
  · rw [now.stage_put_of_ne _ hij]

/-- Takes the first step of a call. -/
def start (i : ι) : Call σ → Interleaved ε ν σ ι
  | .run id source _ state =>
    let (engine, handle) := now.engine.lookUp id
    now.put engine i
      (if (CellParts.ofSource source).isEmpty then .answered (.ran state (.ok ()))
        else .holding handle)
  | .stop name =>
    let (engine, existed) := now.engine.stop name
    now.put engine i (.answered (.stopped existed))

/-- Executes the cell of a run. -/
def execute [Represent ν] (i : ι) (handle : Handle) (source : String) (channel : Channel σ)
    (state : σ) : Interleaved ε ν σ ι :=
  let (engine, state, outcome) := now.engine.executeAt channel handle source state
  now.put engine i (.answered (.ran state outcome))

/-- Takes a step, if it is one that the call can take. -/
def next? [Represent ν] (calls : ι → Call σ) : Step ι → Option (Interleaved ε ν σ ι)
  | .start i =>
    match now.stage i with
    | .waiting => some (now.start i (calls i))
    | _ => none
  | .finish i =>
    match now.stage i, calls i with
    | .holding handle, .run _ source channel state =>
      some (now.execute i handle source channel state)
    | _, _ => none

end Steps

/-- Takes steps one after another, if they are steps that the calls can take. -/
def after? [DecidableEq ι] [Represent ν] (calls : ι → Call σ) (now : Interleaved ε ν σ ι) :
    List (Step ι) → Option (Interleaved ε ν σ ι)
  | [] => some now
  | step :: steps => (now.next? calls step).bind fun next => next.after? calls steps

variable {calls : ι → Call σ} {now next final : Interleaved ε ν σ ι}

/-! ## Consistency -/

/-- What a handle holds is an environment that no notebook has. -/
structure Detached (now : Interleaved ε ν σ ι) (handle : Handle) : Prop where
  bounded : handle.number < now.engine.registry.environments.length
  not_live : ¬now.engine.Live handle

/-- What is done in a detached environment no notebook sees. -/
theorem Detached.environment?_setEnvironment {handle : Handle} (h : Detached now handle)
    (environment : ε) :
    (now.engine.setEnvironment handle environment).environment? = now.engine.environment? := by
  funext name
  refine Option.map_congr fun held hheld => ?_
  rw [now.engine.environment_setEnvironment h.bounded, if_neg]
  rintro rfl
  exact h.not_live ⟨name, hheld⟩

/-- A stop detaches the environment of the notebook stopped. -/
theorem detached_stop [DecidableEq ι] {name : String} {handle : Handle}
    (hfind : now.engine.registry.find? name = some handle) (i : ι) (stage : Stage σ) :
    (now.put (now.engine.stop name).1 i stage).Detached handle where
  bounded := (Registry.lt_of_find? hfind :)
  not_live hlive := ((now.engine.live_stop_iff name handle).mp hlive).2 hfind

/-- What every step keeps: what a run holds is an environment, which no notebook has but that of the
run. -/
structure Consistent (calls : ι → Call σ) (now : Interleaved ε ν σ ι) : Prop where
  bounded : ∀ {i : ι} {handle : Handle}, now.stage i = .holding handle →
    handle.number < now.engine.registry.environments.length
  named : ∀ {i : ι} {handle : Handle}, now.stage i = .holding handle →
    ∃ id source channel state, calls i = .run id source channel state ∧
      ∀ name, now.engine.registry.find? name = some handle → name = id.name

namespace Consistent

theorem new (evaluator : Evaluator ε ν) :
    Consistent calls (new evaluator : Interleaved ε ν σ ι) where
  bounded h := nomatch h
  named h := nomatch h

/-- An environment that a run holds is live just if the run's notebook has it. -/
theorem live_iff (hcons : Consistent calls now) {i : ι} {handle : Handle}
    (hstage : now.stage i = .holding handle) {id : NotebookId} {source : String}
    {channel : Channel σ} {state : σ} (hcall : calls i = .run id source channel state) :
    now.engine.Live handle ↔ now.engine.registry.find? id.name = some handle := by
  constructor
  · rintro ⟨name, hname⟩
    obtain ⟨_, _, _, _, hcall', hnamed⟩ := hcons.named hstage
    cases hcall.symm.trans hcall'
    exact hnamed name hname ▸ hname
  · exact fun hfind => ⟨id.name, hfind⟩

/-- What holds the environment of a notebook is a run of it. -/
theorem run_of_holding (hcons : Consistent calls now) {i : ι} {handle : Handle}
    (hstage : now.stage i = .holding handle) {name : String}
    (hfind : now.engine.registry.find? name = some handle) :
    ∃ id source channel state, calls i = .run id source channel state ∧ id.name = name := by
  obtain ⟨id, source, channel, state, hcall, hnamed⟩ := hcons.named hstage
  exact ⟨id, source, channel, state, hcall, (hnamed name hfind).symm⟩

variable [DecidableEq ι]

/-- The lookup of a run keeps consistency, whether the run goes on to hold what it found or not. -/
theorem lookUp (h : Consistent calls now) {i : ι} {id : NotebookId} {source : String}
    {channel : Channel σ} {state : σ} (hcall : calls i = .run id source channel state)
    {stage : Stage σ} (hstage : ∀ handle, stage = .holding handle →
      handle = (now.engine.lookUp id).2) :
    Consistent calls (now.put (now.engine.lookUp id).1 i stage) where
  bounded {j handle} hj := by
    by_cases hji : j = i
    · subst hji
      rw [stage_put_self] at hj
      rw [hstage handle hj]
      exact now.engine.handle_lookUp_lt id
    · rw [now.stage_put_of_ne _ hji] at hj
      exact Nat.lt_of_lt_of_le (h.bounded hj) (now.engine.length_le_lookUp id)
  named {j handle} hj := by
    by_cases hji : j = i
    · subst hji
      rw [stage_put_self] at hj
      refine ⟨id, source, channel, state, hcall, fun name hname => ?_⟩
      rw [hstage handle hj] at hname
      exact Registry.eq_of_find? hname ((now.engine.find?_lookUp id id.name).trans (if_pos rfl))
    · rw [now.stage_put_of_ne _ hji] at hj
      obtain ⟨id', source', channel', state', hcall', hnamed⟩ := h.named hj
      refine ⟨id', source', channel', state', hcall', fun name hname => hnamed name ?_⟩
      exact (now.engine.find?_lookUp_eq_some_iff (h.bounded hj) id name).mp hname

/-- Once a call is answered, consistency is left to the engine and the other calls. -/
theorem answer (h : Consistent calls now) {engine : Engine ε ν} {i : ι} {answer : Answer σ}
    (hlength : engine.registry.environments.length = now.engine.registry.environments.length)
    (hfind : ∀ name handle, engine.registry.find? name = some handle →
      now.engine.registry.find? name = some handle) :
    Consistent calls (now.put engine i (.answered answer)) where
  bounded {j handle} hj := by
    by_cases hji : j = i
    · rw [hji, stage_put_self] at hj
      exact nomatch hj
    · rw [now.stage_put_of_ne _ hji] at hj
      exact hlength ▸ h.bounded hj
  named {j handle} hj := by
    by_cases hji : j = i
    · rw [hji, stage_put_self] at hj
      exact nomatch hj
    · rw [now.stage_put_of_ne _ hji] at hj
      obtain ⟨id, source, channel, state, hcall, hnamed⟩ := h.named hj
      exact ⟨id, source, channel, state, hcall, fun name hname => hnamed name (hfind _ _ hname)⟩

/-- What a run holds is detached by a stop of the run's notebook, if it was not before. -/
theorem detached_of_stop (hcons : Consistent calls now) {i : ι} {handle : Handle}
    (hi : now.stage i = .holding handle) {id : NotebookId} {source : String}
    {channel : Channel σ} {state : σ} (hrun : calls i = .run id source channel state) (j : ι)
    (stage : Stage σ) : (now.put (now.engine.stop id.name).1 j stage).Detached handle where
  bounded := hcons.bounded hi
  not_live hlive := by
    obtain ⟨hlive, hfind⟩ := (now.engine.live_stop_iff id.name handle).mp hlive
    exact hfind ((hcons.live_iff hi hrun).mp hlive)

end Consistent

/-! ## What a step does -/

variable [DecidableEq ι] [Represent ν]

/-- What a step can be, and where it leads. -/
inductive Advance (calls : ι → Call σ) (now : Interleaved ε ν σ ι) :
    Step ι → Interleaved ε ν σ ι → Prop
  | stop {i : ι} {name : String} (hstage : now.stage i = .waiting) (hcall : calls i = .stop name) :
      Advance calls now (.start i)
        (now.put (now.engine.stop name).1 i (.answered (.stopped (now.engine.isRunning name))))
  | blank {i : ι} {id : NotebookId} {source : String} {channel : Channel σ} {state : σ}
      (hstage : now.stage i = .waiting) (hcall : calls i = .run id source channel state)
      (hblank : (CellParts.ofSource source).isEmpty = true) :
      Advance calls now (.start i)
        (now.put (now.engine.lookUp id).1 i (.answered (.ran state (.ok ()))))
  | lookUp {i : ι} {id : NotebookId} {source : String} {channel : Channel σ} {state : σ}
      (hstage : now.stage i = .waiting) (hcall : calls i = .run id source channel state)
      (hblank : (CellParts.ofSource source).isEmpty = false) :
      Advance calls now (.start i)
        (now.put (now.engine.lookUp id).1 i (.holding (now.engine.lookUp id).2))
  | execute {i : ι} {id : NotebookId} {source : String} {channel : Channel σ} {state : σ}
      {handle : Handle} (hstage : now.stage i = .holding handle)
      (hcall : calls i = .run id source channel state) :
      Advance calls now (.finish i) (now.execute i handle source channel state)

theorem advance_of_next? {step : Step ι} (h : now.next? calls step = some next) :
    Advance calls now step next := by
  cases step with
  | start i =>
      rw [next?] at h
      split at h
      · next hstage =>
          cases h
          rcases hcall : calls i with ⟨id, source, channel, state⟩ | ⟨name⟩
          · rw [start]
            rcases hblank : (CellParts.ofSource source).isEmpty with _ | _
            · exact .lookUp hstage hcall hblank
            · exact .blank hstage hcall hblank
          · exact .stop hstage hcall
      · exact nomatch h
  | finish i =>
      rw [next?] at h
      split at h
      · next hstage hcall =>
          cases h
          exact .execute hstage hcall
      · exact nomatch h

/-- Steps are a first step and the steps after it. -/
theorem after?_cons {step : Step ι} {steps : List (Step ι)}
    (h : now.after? calls (step :: steps) = some final) :
    ∃ next, now.next? calls step = some next ∧ Advance calls now step next ∧
      next.after? calls steps = some final := by
  obtain ⟨next, hnext, hafter⟩ := Option.bind_eq_some_iff.mp (by rwa [after?] at h)
  exact ⟨next, hnext, advance_of_next? hnext, hafter⟩

theorem after?_append (steps more : List (Step ι)) :
    now.after? calls (steps ++ more) =
      (now.after? calls steps).bind fun next => next.after? calls more := by
  induction steps generalizing now with
  | nil => rfl
  | cons step steps ih =>
      rw [List.cons_append, after?, after?, Option.bind_assoc]
      congr 1
      funext next
      exact ih

/-- An execution sets the environment that the run holds to what its cell leaves. -/
theorem execute_eq (i : ι) (handle : Handle) (source : String) (channel : Channel σ) (state : σ) :
    now.execute i handle source channel state =
      let executed := now.engine.evaluator.executeIn channel (now.engine.environment handle) source
        state
      now.put (now.engine.setEnvironment handle executed.environment) i
        (.answered (.ran executed.state executed.outcome)) := by
  rw [execute, Engine.executeAt_eq]

/-- A run between whose steps nothing falls is a run of the engine. -/
theorem after?_run {i : ι} {id : NotebookId} {source : String} {channel : Channel σ} {state : σ}
    (hstage : now.stage i = .waiting) (hcall : calls i = .run id source channel state)
    (hblank : (CellParts.ofSource source).isEmpty = false) :
    let ran := now.engine.run channel id source state
    now.after? calls [.start i, .finish i] =
      some (now.put ran.1 i (.answered (.ran ran.2.1 ran.2.2))) := by
  intro ran
  simp only [after?, next?, hstage, hcall, start, hblank, Option.bind_some, Bool.false_eq_true,
    if_false, stage_put_self, execute, engine_put, put_put]
  rfl

theorem after?_split {before after : List (Step ι)}
    (h : now.after? calls (before ++ after) = some final) :
    ∃ next, now.after? calls before = some next ∧ next.after? calls after = some final :=
  Option.bind_eq_some_iff.mp ((after?_append before after).symm.trans h)

namespace Advance

variable {step : Step ι}

/-- A step changes how far its own call has come and no other. -/
theorem stage_eq (h : Advance calls now step next) {i : ι} (hi : i ≠ step.call) :
    next.stage i = now.stage i := by
  cases h <;> exact now.stage_put_of_ne _ hi _

@[simp] theorem evaluator_eq (h : Advance calls now step next) :
    next.engine.evaluator = now.engine.evaluator := by
  cases h with
  | stop => rfl
  | blank => rfl
  | lookUp => rfl
  | execute => rw [execute_eq, engine_put, Engine.evaluator_setEnvironment]

end Advance

/-- A step keeps consistency. -/
theorem Consistent.advance (h : Consistent calls now) {step : Step ι}
    (hstep : Advance calls now step next) : Consistent calls next := by
  cases hstep with
  | stop hstage hcall =>
      refine h.answer rfl fun name handle hname => ?_
      exact ((now.engine.find?_stop_eq_some_iff _ name handle).mp hname).2
  | blank hstage hcall hblank => exact h.lookUp hcall fun handle hhandle => nomatch hhandle
  | lookUp hstage hcall hblank =>
      exact h.lookUp hcall fun handle hhandle => (Stage.holding.inj hhandle).symm
  | execute hstage hcall =>
      rw [execute_eq]
      exact h.answer (List.length_set ..) fun _ _ hname => hname

/-! ## Courses of steps -/

theorem Advance.notAnswered {step : Step ι} (h : Advance calls now step next) {i : ι}
    {answer : Answer σ} (hi : now.stage i = .answered answer) : i ≠ step.call := by
  rintro rfl
  cases h with
  | stop hstage => exact nomatch hstage.symm.trans hi
  | blank hstage => exact nomatch hstage.symm.trans hi
  | lookUp hstage => exact nomatch hstage.symm.trans hi
  | execute hstage => exact nomatch hstage.symm.trans hi

/-- A step of a call leaves it waiting no longer. -/
theorem Advance.stage_call {step : Step ι} (h : Advance calls now step next) :
    next.stage step.call ≠ .waiting := by
  cases h with
  | stop => exact (now.stage_put_self _ _ _).symm ▸ nofun
  | blank => exact (now.stage_put_self _ _ _).symm ▸ nofun
  | lookUp => exact (now.stage_put_self _ _ _).symm ▸ nofun
  | execute =>
      rw [execute_eq]
      exact (now.stage_put_self _ _ _).symm ▸ nofun

/-- A call is as far as it was if none of the steps was its. -/
theorem stage_eq_of_forall_ne {steps : List (Step ι)} (h : now.after? calls steps = some final)
    {i : ι} (hi : ∀ step ∈ steps, step.call ≠ i) : final.stage i = now.stage i := by
  induction steps generalizing now with
  | nil =>
      cases h
      rfl
  | cons step steps ih =>
      obtain ⟨next, -, hstep, hafter⟩ := after?_cons h
      rw [List.forall_mem_cons] at hi
      rw [ih hafter hi.2, hstep.stage_eq (Ne.symm hi.1)]

/-- An answer stays. -/
theorem stage_eq_of_answered {steps : List (Step ι)} (h : now.after? calls steps = some final)
    {i : ι} {answer : Answer σ} (hi : now.stage i = .answered answer) :
    final.stage i = .answered answer := by
  induction steps generalizing now with
  | nil =>
      cases h
      exact hi
  | cons step steps ih =>
      obtain ⟨next, -, hstep, hafter⟩ := after?_cons h
      exact ih hafter ((hstep.stage_eq (hstep.notAnswered hi)).trans hi)

/-- A call that has been begun waits no more. -/
theorem ne_waiting_of_ne_waiting {steps : List (Step ι)} (h : now.after? calls steps = some final)
    {i : ι} (hi : now.stage i ≠ .waiting) : final.stage i ≠ .waiting := by
  induction steps generalizing now with
  | nil =>
      cases h
      exact hi
  | cons step steps ih =>
      obtain ⟨next, -, hstep, hafter⟩ := after?_cons h
      refine ih hafter ?_
      by_cases hcall : i = step.call
      · exact hcall ▸ hstep.stage_call
      · rwa [hstep.stage_eq hcall]

/-- A call that waited has been begun just if its first step was taken. -/
theorem ne_waiting_iff {steps : List (Step ι)} (h : now.after? calls steps = some final) {i : ι}
    (hi : now.stage i = .waiting) : final.stage i ≠ .waiting ↔ .start i ∈ steps := by
  induction steps generalizing now with
  | nil =>
      cases h
      exact ⟨fun hne => absurd hi hne, fun hmem => absurd hmem List.not_mem_nil⟩
  | cons step steps ih =>
      obtain ⟨next, -, hstep, hafter⟩ := after?_cons h
      by_cases hcall : i = step.call
      · have hstart : step = .start i := by
          subst hcall
          cases hstep with
          | stop => rfl
          | blank => rfl
          | lookUp => rfl
          | execute hstage => exact nomatch hstage.symm.trans hi
        refine ⟨fun _ => hstart ▸ List.mem_cons_self, fun _ => ?_⟩
        exact ne_waiting_of_ne_waiting hafter (hcall ▸ hstep.stage_call)
      · rw [ih hafter ((hstep.stage_eq hcall).trans hi), List.mem_cons, or_iff_right]
        rintro rfl
        exact hcall rfl

theorem Consistent.after? (h : Consistent calls now) {steps : List (Step ι)}
    (hafter : now.after? calls steps = some final) : Consistent calls final := by
  induction steps generalizing now with
  | nil =>
      cases hafter
      exact h
  | cons step steps ih =>
      obtain ⟨next, -, hstep, hafter⟩ := after?_cons hafter
      exact ih (h.advance hstep) hafter

/-- A run holds what it holds until it is answered. -/
theorem stage_of_holding {steps : List (Step ι)} (h : now.after? calls steps = some final) {i : ι}
    {handle : Handle} (hi : now.stage i = .holding handle) :
    final.stage i = .holding handle ∨ ∃ answer, final.stage i = .answered answer := by
  induction steps generalizing now with
  | nil =>
      cases h
      exact .inl hi
  | cons step steps ih =>
      obtain ⟨next, -, hstep, hafter⟩ := after?_cons h
      by_cases hcall : i = step.call
      · subst hcall
        cases hstep with
        | stop hstage => exact nomatch hstage.symm.trans hi
        | blank hstage => exact nomatch hstage.symm.trans hi
        | lookUp hstage => exact nomatch hstage.symm.trans hi
        | execute =>
            rw [execute_eq] at hafter
            exact .inr ⟨_, stage_eq_of_answered hafter (now.stage_put_self _ _ _)⟩
      · exact ih hafter ((hstep.stage_eq hcall).trans hi)

/-! ## Detached environments -/

/-- An environment that was detached stays so. -/
theorem Detached.advance {handle : Handle} (h : Detached now handle) {step : Step ι}
    (hstep : Advance calls now step next) : Detached next handle := by
  cases hstep with
  | stop hstage hcall =>
      refine ⟨h.bounded, fun hlive => h.not_live ?_⟩
      exact ((now.engine.live_stop_iff _ handle).mp hlive).1
  | blank hstage hcall hblank =>
      refine ⟨Nat.lt_of_lt_of_le h.bounded (now.engine.length_le_lookUp _), fun hlive => ?_⟩
      exact h.not_live ((now.engine.live_lookUp_iff h.bounded _).mp hlive)
  | lookUp hstage hcall hblank =>
      refine ⟨Nat.lt_of_lt_of_le h.bounded (now.engine.length_le_lookUp _), fun hlive => ?_⟩
      exact h.not_live ((now.engine.live_lookUp_iff h.bounded _).mp hlive)
  | execute hstage hcall =>
      rw [execute_eq]
      exact ⟨(List.length_set ..).symm ▸ h.bounded, h.not_live⟩

theorem Detached.after? {handle : Handle} (h : Detached now handle) {steps : List (Step ι)}
    (hafter : now.after? calls steps = some final) : Detached final handle := by
  induction steps generalizing now with
  | nil =>
      cases hafter
      exact h
  | cons step steps ih =>
      obtain ⟨next, -, hstep, hafter⟩ := after?_cons hafter
      exact ih (h.advance hstep) hafter

/-- No run comes to hold a detached environment, and a run holds it until it executes its cell. -/
theorem Detached.holding_iff {handle : Handle} (h : Detached now handle) {step : Step ι}
    (hstep : Advance calls now step next) (i : ι) :
    next.stage i = .holding handle ↔ now.stage i = .holding handle ∧ step ≠ .finish i := by
  by_cases hi : i = step.call
  · subst hi
    cases hstep with
    | stop hstage hcall => simp [Step.call, hstage]
    | blank hstage hcall hblank => simp [Step.call, hstage]
    | @lookUp i id _ _ _ hstage hcall hblank =>
        simp only [Step.call, hstage, stage_put_self, Stage.holding.injEq, reduceCtorEq, false_and,
          iff_false]
        rintro rfl
        refine h.not_live ((now.engine.live_lookUp_iff h.bounded id).mp ?_)
        exact now.engine.live_lookUp_self id
    | execute hstage hcall => simp [Step.call, execute_eq]
  · rw [hstep.stage_eq hi]
    refine ⟨fun hholding => ⟨hholding, ?_⟩, And.left⟩
    rintro rfl
    exact hi rfl

/-- An environment changes only as a run that holds it executes its cell. -/
theorem Advance.environment_eq {step : Step ι} (hstep : Advance calls now step next)
    (hcons : Consistent calls now) {handle : Handle}
    (h : ∀ i, step = .finish i → now.stage i ≠ .holding handle) :
    next.engine.environment handle = now.engine.environment handle := by
  cases hstep with
  | stop hstage hcall => rfl
  | blank hstage hcall hblank => exact now.engine.environment_lookUp _ handle
  | lookUp hstage hcall hblank => exact now.engine.environment_lookUp _ handle
  | execute hstage hcall =>
      rw [execute_eq]
      refine (now.engine.environment_setEnvironment (hcons.bounded hstage) _ handle).trans
        (if_neg ?_)
      rintro rfl
      exact h _ rfl hstage

end Interleaved

end Cellbook
