import Cellbook.Proofs.Engine.Placement

/-!
# Linearizability of runs and stops

However the steps of runs and stops fall, the calls can be put in an order in which each of them,
made after the one before was over, is answered as it was, and the notebooks end with the
environments they have (`Interleaved.linearizable`).

What carries the proof is the agreement of the engine with the environments that the calls placed so
far leave (`Agrees`).  The two differ where a run has created an environment and not executed its
cell: the run is not placed, and in order the notebook has no environment yet.
-/

namespace Cellbook.Interleaved

variable {ε ν σ ι : Type} {calls : ι → Call σ} {now next final : Interleaved ε ν σ ι}

/-! ## Agreement with the order -/

/-- The environments of the notebooks after the calls that were placed.  They are those of the
engine, but for one that a run has created and not used: that run is yet to be placed. -/
structure Agrees (now : Interleaved ε ν σ ι) (environments : Environments ε) : Prop where
  absent : ∀ {name : String}, now.engine.registry.find? name = none → environments name = none
  present : ∀ {name : String} {handle : Handle}, now.engine.registry.find? name = some handle →
    (environments name).getD now.engine.evaluator.fresh = now.engine.environment handle
  created : ∀ {name : String} {handle : Handle}, now.engine.registry.find? name = some handle →
    environments name = none → ∃ i, now.stage i = .holding handle

namespace Agrees

variable {environments : Environments ε}

theorem new (evaluator : Evaluator ε ν) :
    (Interleaved.new evaluator : Interleaved ε ν σ ι).Agrees fun _ => none where
  absent _ := rfl
  present h := nomatch h
  created h := nomatch h

/-- A run is placed in the environment that its lookup leads to. -/
theorem getD_eq (h : now.Agrees environments) (id : NotebookId) :
    (environments id.name).getD now.engine.evaluator.fresh = now.engine.environmentOf id := by
  rw [Engine.environmentOf_eq, Engine.environment?]
  rcases hfind : now.engine.registry.find? id.name with _ | handle
  · rw [h.absent hfind]
    rfl
  · exact h.present hfind

/-- Once every call is answered, the environments are those of the engine. -/
theorem eq_environment? (h : now.Agrees environments) (hsettled : now.Settled) :
    environments = now.engine.environment? := by
  funext name
  rw [Engine.environment?]
  rcases hfind : now.engine.registry.find? name with _ | handle
  · exact h.absent hfind
  · rw [Option.map_some, ← h.present hfind]
    rcases henvironment : environments name with _ | environment
    · obtain ⟨i, hi⟩ := h.created hfind henvironment
      exact absurd hi (hsettled i handle)
    · rfl

variable [DecidableEq ι]

theorem stop (h : now.Agrees environments) {i : ι} (hstage : now.stage i = .waiting) (name : String)
    (stage : Stage σ) :
    (now.put (now.engine.stop name).1 i stage).Agrees (Function.update environments name none) where
  absent {other} hother := by
    rw [engine_put, Engine.stop, Registry.find?_remove] at hother
    by_cases hname : other = name
    · rw [hname, Function.update_self]
    · rw [Function.update_of_ne hname]
      exact h.absent ((if_neg hname).symm.trans hother)
  present {other handle} hother := by
    obtain ⟨hname, hother⟩ := (now.engine.find?_stop_eq_some_iff name other handle).mp hother
    rw [Function.update_of_ne hname]
    exact h.present hother
  created {other handle} hother hnone := by
    obtain ⟨hname, hother⟩ := (now.engine.find?_stop_eq_some_iff name other handle).mp hother
    rw [Function.update_of_ne hname] at hnone
    obtain ⟨j, hj⟩ := h.created hother hnone
    exact ⟨j, now.stage_put_of_holding _ stage hj (now.ne_holding_of_waiting hstage handle)⟩

/-- The run that has looked its environment up need not be placed yet. -/
theorem lookUp (h : now.Agrees environments) {i : ι} (hstage : now.stage i = .waiting)
    (id : NotebookId) :
    (now.put (now.engine.lookUp id).1 i (.holding (now.engine.lookUp id).2)).Agrees
      environments where
  absent {name} hname := by
    rw [engine_put, Engine.find?_lookUp] at hname
    split at hname
    · exact nomatch hname
    · exact h.absent hname
  present {name handle} hname := by
    rw [engine_put, Engine.find?_lookUp] at hname
    rw [engine_put, Engine.environment_lookUp]
    split at hname
    · next heq =>
        cases hname
        subst heq
        rw [Engine.environment_handle_lookUp, ← Engine.environmentOf_eq]
        exact h.getD_eq id
    · exact h.present hname
  created {name handle} hname hnone := by
    rw [engine_put, Engine.find?_lookUp] at hname
    split at hname
    · cases hname
      exact ⟨i, now.stage_put_self _ _ _⟩
    · obtain ⟨j, hj⟩ := h.created hname hnone
      exact ⟨j, now.stage_put_of_holding _ _ hj (now.ne_holding_of_waiting hstage handle)⟩

/-- A run that executes its cell in the environment of its notebook is placed there. -/
theorem execute (h : now.Agrees environments) {i : ι} {handle : Handle}
    (hstage : now.stage i = .holding handle) {name : String}
    (hfind : now.engine.registry.find? name = some handle) (environment : ε) (answer : Answer σ) :
    (now.put (now.engine.setEnvironment handle environment) i (.answered answer)).Agrees
      (Function.update environments name (some environment)) where
  absent {other} hother := by
    rw [engine_put, Engine.find?_setEnvironment] at hother
    rw [Function.update_of_ne]
    · exact h.absent hother
    · rintro rfl
      exact nomatch hfind.symm.trans hother
  present {other held} hother := by
    rw [engine_put, Engine.find?_setEnvironment] at hother
    rw [engine_put, Engine.environment_setEnvironment _ (Registry.lt_of_find? hfind),
      Engine.evaluator_setEnvironment]
    by_cases hname : other = name
    · subst hname
      rw [if_pos (Option.some.inj (hother.symm.trans hfind)), Function.update_self,
        Option.getD_some]
    · rw [Function.update_of_ne hname, if_neg]
      · exact h.present hother
      · rintro rfl
        exact hname (Registry.eq_of_find? hother hfind)
  created {other held} hother hnone := by
    rw [engine_put, Engine.find?_setEnvironment] at hother
    -- The run itself held the environment of its own notebook, which is there now.
    by_cases hname : other = name
    · rw [hname, Function.update_self] at hnone
      exact nomatch hnone
    · rw [Function.update_of_ne hname] at hnone
      obtain ⟨j, hj⟩ := h.created hother hnone
      refine ⟨j, now.stage_put_of_holding _ _ hj fun hi => ?_⟩
      cases hstage.symm.trans hi
      exact hname (Registry.eq_of_find? hother hfind)

/-- A run that executes its cell in an environment that no notebook has was placed before. -/
theorem executeDetached (h : now.Agrees environments) {i : ι} {handle : Handle}
    (hstage : now.stage i = .holding handle) (hdetached : now.Detached handle) (environment : ε)
    (answer : Answer σ) :
    (now.put (now.engine.setEnvironment handle environment) i (.answered answer)).Agrees
      environments where
  absent hname := h.absent hname
  present {name held} hname := by
    rw [engine_put, Engine.find?_setEnvironment] at hname
    rw [engine_put, Engine.environment_setEnvironment _ hdetached.bounded, if_neg]
    · exact h.present hname
    · rintro rfl
      exact hdetached.not_live ⟨name, hname⟩
  created {name held} hname hnone := by
    rw [engine_put, Engine.find?_setEnvironment] at hname
    obtain ⟨j, hj⟩ := h.created hname hnone
    refine ⟨j, now.stage_put_of_holding _ _ hj fun hi => ?_⟩
    cases hstage.symm.trans hi
    exact hdetached.not_live ⟨name, hname⟩

/-- A run whose cell is blank is placed as it looks its environment up: it executes nothing. -/
theorem blank (h : now.Agrees environments) {i : ι} (hstage : now.stage i = .waiting)
    (id : NotebookId) (answer : Answer σ) :
    (now.put (now.engine.lookUp id).1 i (.answered answer)).Agrees
      (Function.update environments id.name (some (now.engine.environmentOf id))) := by
  have hfind : (now.engine.lookUp id).1.registry.find? id.name = some (now.engine.lookUp id).2 :=
    (now.engine.find?_lookUp id id.name).trans (if_pos rfl)
  have hexecuted := (h.lookUp hstage id).execute (now.stage_put_self _ _ _) hfind
    (now.engine.environmentOf id) answer
  have hsame : (now.engine.lookUp id).1.setEnvironment (now.engine.lookUp id).2
      (now.engine.environmentOf id) = (now.engine.lookUp id).1 :=
    (now.engine.lookUp id).1.setEnvironment_environment (now.engine.lookUp id).2
  rwa [put_put, engine_put, hsame] at hexecuted

end Agrees

variable [DecidableEq ι] [Represent ν]

/-! ## Answers in order -/

/-- The runs of a notebook, one after another from the environment they hold, are answered as they
are when other calls fall between them. -/
theorem answers_runsIn {handle : Handle} {steps : List (Step ι)} (hcons : Consistent calls now)
    (hdetached : now.Detached handle) (h : now.after? calls steps = some final) {name : String}
    (hruns : ∀ i, now.stage i = .holding handle →
      ∃ id source channel state, calls i = .run id source channel state ∧ id.name = name)
    (environments : Environments ε)
    (henvironment : (environments name).getD now.engine.evaluator.fresh =
      now.engine.environment handle) :
    (now.runsIn calls handle steps).map final.stage =
      (now.engine.evaluator.performAll environments
        ((now.runsIn calls handle steps).map calls)).2.map .answered := by
  induction steps generalizing now environments with
  | nil => rfl
  | cons step steps ih =>
      obtain ⟨next, hnext, hstep, hafter⟩ := after?_cons h
      have hrest := ih (hcons.advance hstep) (hdetached.advance hstep) hafter
        fun i hi => hruns i ((hdetached.holding_iff hstep i).mp hi).1
      rw [hstep.evaluator_eq] at hrest
      rw [runsIn_cons hnext]
      -- Only the runs that hold the environment change it, and they are those in order.
      rcases hexecuted : now.executedIn? handle step with _ | i
      · refine hrest environments ?_
        rw [hstep.environment_eq hcons, henvironment]
        intro i hfinish hi
        have hsome := executedIn?_eq_some_iff.mpr ⟨hfinish, hi⟩
        exact nomatch hexecuted.symm.trans hsome
      · obtain ⟨rfl, hi⟩ := executedIn?_eq_some_iff.mp hexecuted
        cases hstep with
        | @execute i id source channel state held hheld hcall =>
            obtain rfl : held = handle := Stage.holding.inj (hheld.symm.trans hi)
            obtain ⟨_, _, _, _, hrun, rfl⟩ := hruns i hi
            cases hcall.symm.trans hrun
            rw [execute_eq] at hafter hrest
            rw [execute_eq]
            simp only [Option.toList_some, List.singleton_append, List.map_cons, hcall,
              Evaluator.performAll, Evaluator.perform, henvironment]
            rw [stage_eq_of_answered hafter (now.stage_put_self _ _ _)]
            congr 1
            refine hrest _ ?_
            rw [Function.update_self, Option.getD_some, engine_put,
              now.engine.environment_setEnvironment hdetached.bounded, if_pos rfl]

/-- The runs that hold the environment of a notebook as it is stopped, and then the stop, are
answered as they are in the end. -/
theorem performAll_placed_stop {steps : List (Step ι)} (hcons : Consistent calls now) {j : ι}
    {name : String} {handle : Handle} (hstage : now.stage j = .waiting)
    (hcall : calls j = .stop name) (hfind : now.engine.registry.find? name = some handle)
    (hnext : next = now.put (now.engine.stop name).1 j (.answered (.stopped true)))
    (hcons' : Consistent calls next) (h : next.after? calls steps = some final)
    (hsettled : final.Settled) {environments : Environments ε} (hagrees : now.Agrees environments) :
    let placed := next.runsIn calls handle steps ++ [j]
    let done := now.engine.evaluator.performAll environments (placed.map calls)
    next.Agrees done.1 ∧ placed.map final.stage = done.2.map .answered := by
  have hdetached : next.Detached handle := hnext ▸ detached_stop hfind j _
  have hothers : ∀ i, next.stage i = .holding handle ↔ now.stage i = .holding handle := by
    intro i
    rw [hnext, now.stage_put_answered_iff _ hstage]
  have hruns : ∀ i, next.stage i = .holding handle →
      ∃ id source channel state, calls i = .run id source channel state ∧ id.name = name :=
    fun i hi => hcons.run_of_holding ((hothers i).mp hi) hfind
  have hsame : next.engine.evaluator = now.engine.evaluator := by
    rw [hnext]
    rfl
  have henvironment : (environments name).getD next.engine.evaluator.fresh =
      next.engine.environment handle := by
    rw [hnext]
    exact hagrees.present hfind
  have hanswers := answers_runsIn hcons' hdetached h hruns environments henvironment
  have hmem : ∀ call ∈ (next.runsIn calls handle steps).map calls, ∃ id source channel state,
      call = .run id source channel state ∧ id.name = name := by
    intro call hcall
    obtain ⟨i, hi, rfl⟩ := List.mem_map.mp hcall
    exact hruns i ((mem_runsIn hdetached h hsettled).mp hi)
  obtain ⟨hupdate, hnone⟩ := now.engine.evaluator.performAll_runs hmem environments
  -- The notebook had an environment: a run not yet placed that created it would be one of these.
  have hsome : ((now.engine.evaluator.performAll environments
      ((next.runsIn calls handle steps).map calls)).1 name).isSome = true := by
    rw [Option.isSome_iff_ne_none]
    intro hgone
    obtain ⟨habsent, hempty⟩ := hnone hgone
    obtain ⟨i, hi⟩ := hagrees.created hfind habsent
    have hi := (mem_runsIn hdetached h hsettled).mpr ((hothers i).mpr hi)
    rw [List.map_eq_nil_iff.mp hempty] at hi
    exact absurd hi List.not_mem_nil
  dsimp only
  rw [List.map_append, List.map_append, Evaluator.performAll_append, hanswers, hsame]
  simp only [List.map_cons, List.map_nil, hcall, Evaluator.performAll, Evaluator.perform, hupdate,
    hsome, List.map_append]
  refine ⟨hnext ▸ hagrees.stop hstage name _, ?_⟩
  rw [stage_eq_of_answered h (hnext ▸ now.stage_put_self _ _ _)]

/-- What a step places is answered as it is in the end, and agreement goes on. -/
theorem performAll_placed {step : Step ι} {steps : List (Step ι)} (hcons : Consistent calls now)
    (hstep : Advance calls now step next) (h : next.after? calls steps = some final)
    (hsettled : final.Settled) {environments : Environments ε} (hagrees : now.Agrees environments) :
    let placed := now.placed calls next steps step
    let done := now.engine.evaluator.performAll environments (placed.map calls)
    next.Agrees done.1 ∧ placed.map final.stage = done.2.map .answered := by
  have hcons' := hcons.advance hstep
  cases hstep with
  | @stop j name hstage hcall =>
      have hanswer : final.stage j = .answered (.stopped (now.engine.isRunning name)) :=
        stage_eq_of_answered h (now.stage_put_self _ _ _)
      rcases hfind : now.engine.registry.find? name with _ | handle
      · have hrunning : now.engine.isRunning name = false := by
          rw [Engine.isRunning, Registry.contains, hfind]
          rfl
        simp only [placed, hcall, hfind, List.map_cons, List.map_nil, Evaluator.performAll,
          Evaluator.perform, hanswer, hrunning, hagrees.absent hfind]
        exact ⟨hagrees.stop hstage name _, rfl⟩
      · have hrunning : now.engine.isRunning name = true := by
          rw [Engine.isRunning, Registry.contains, hfind]
          rfl
        rw [hrunning] at h hcons' ⊢
        simp only [placed, hcall, hfind]
        exact performAll_placed_stop hcons hstage hcall hfind rfl hcons' h hsettled hagrees
  | @blank j id source channel state hstage hcall hblank =>
      have hanswer : final.stage j = .answered (.ran state (.ok ())) :=
        stage_eq_of_answered h (now.stage_put_self _ _ _)
      simp only [placed, hcall, hblank, if_true, List.map_cons, List.map_nil, Evaluator.performAll,
        Evaluator.perform, hagrees.getD_eq id, hanswer,
        Evaluator.executeIn_of_isEmpty _ _ _ hblank]
      exact ⟨hagrees.blank hstage id _, trivial⟩
  | @lookUp j id source channel state hstage hcall hblank =>
      simp only [placed, hcall, hblank, Bool.false_eq_true, if_false]
      exact ⟨hagrees.lookUp hstage id, rfl⟩
  | @execute j id source channel state handle hstage hcall =>
      rw [execute_eq] at h ⊢
      simp only [placed, hstage, hcall]
      split
      · next hfind =>
          simp only [List.map_cons, List.map_nil, hcall, Evaluator.performAll, Evaluator.perform,
            hagrees.present hfind, stage_eq_of_answered h (now.stage_put_self _ _ _)]
          exact ⟨hagrees.execute hstage hfind _ _, trivial⟩
      · next hfind =>
          have hdetached : now.Detached handle :=
            ⟨hcons.bounded hstage, fun hlive => hfind ((hcons.live_iff hstage hcall).mp hlive)⟩
          exact ⟨hagrees.executeDetached hstage hdetached _ _, rfl⟩

/-- The calls in order are answered as they are in the end, and end in the environments of the
engine. -/
theorem performAll_order {steps : List (Step ι)} (hcons : Consistent calls now)
    (h : now.after? calls steps = some final) (hsettled : final.Settled)
    {environments : Environments ε} (hagrees : now.Agrees environments) :
    let order := now.order calls steps
    let done := now.engine.evaluator.performAll environments (order.map calls)
    done.1 = final.engine.environment? ∧ order.map final.stage = done.2.map .answered := by
  induction steps generalizing now environments with
  | nil =>
      cases h
      exact ⟨hagrees.eq_environment? hsettled, rfl⟩
  | cons step steps ih =>
      obtain ⟨next, hnext, hstep, hafter⟩ := after?_cons h
      obtain ⟨hagrees', hplaced⟩ := performAll_placed hcons hstep hafter hsettled hagrees
      obtain ⟨henvironments, horder⟩ := ih (hcons.advance hstep) hafter hagrees'
      rw [hstep.evaluator_eq] at henvironments horder
      dsimp only
      rw [order_cons hnext, List.map_append, List.map_append, Evaluator.performAll_append]
      refine ⟨henvironments, ?_⟩
      rw [hplaced, horder, List.map_append]

/-- A run that began before a stop of its notebook and executes its cell after it changes no
environment that a notebook has. -/
theorem environment?_eq_of_stop {i j : ι} {before between : List (Step ι)}
    {held left : Interleaved ε ν σ ι} (hcons : Consistent calls now)
    (h : now.after? calls (before ++ .start j :: between) = some held)
    (hwaiting : ∀ i, now.stage i = .waiting) {id : NotebookId} {source : String}
    {channel : Channel σ} {state : σ} (hrun : calls i = .run id source channel state)
    (hstop : calls j = .stop id.name) (hstarted : .start i ∈ before)
    (hfinish : held.next? calls (.finish i) = some left) :
    left.engine.environment? = held.engine.environment? := by
  obtain ⟨next, hbefore, hafter⟩ := after?_split h
  obtain ⟨later, -, hstep, hbetween⟩ := after?_cons hafter
  have hcons' := hcons.after? hbefore
  cases advance_of_next? hfinish with
  | @execute i id' source' channel' state' handle hheld hcall =>
      have hstage : next.stage i = .holding handle := by
        have hi := (ne_waiting_iff hbefore (hwaiting i)).mpr hstarted
        rcases hnext : next.stage i with _ | other | answer
        · exact absurd hnext hi
        · rcases stage_of_holding hafter hnext with hother | ⟨answer, hother⟩
          · rw [← hother, hheld]
          · exact nomatch hheld.symm.trans hother
        · exact nomatch hheld.symm.trans (stage_eq_of_answered hafter hnext)
      have hdetached : later.Detached handle := by
        cases hstep with
        | stop _ hcall =>
            cases hstop.symm.trans hcall
            exact hcons'.detached_of_stop hstage hrun j _
        | blank _ hcall => exact nomatch hstop.symm.trans hcall
        | lookUp _ hcall => exact nomatch hstop.symm.trans hcall
      rw [execute_eq, engine_put]
      exact (hdetached.after? hbetween).environment?_setEnvironment _

/-! ## Linearizability -/

/-- An order of calls that take steps in any order, as if each were made after the one before it. -/
structure Linearized (evaluator : Evaluator ε ν) (calls : ι → Call σ) (steps : List (Step ι))
    (final : Interleaved ε ν σ ι) (order : List ι) : Prop where
  nodup : order.Nodup
  /-- The calls in order are those that were begun. -/
  mem_iff : ∀ i, i ∈ order ↔ .start i ∈ steps
  /-- A call that was over before another began comes before it. -/
  inTime : ∀ i ∈ order, ∀ j ∈ order, Precedes steps i j → [i, j].Sublist order
  /-- A run that began before a stop of its notebook comes before it. -/
  beforeStop : ∀ before after i j, steps = before ++ .start j :: after → .start i ∈ before →
    ∀ id source channel state, calls i = .run id source channel state → calls j = .stop id.name →
      [i, j].Sublist order
  /-- Each call is answered as it is in order. -/
  answers : order.map final.stage =
    ((Engine.new evaluator).performAll (order.map calls)).2.map .answered
  /-- The notebooks end with the environments they have in order. -/
  environments : final.engine.environment? =
    ((Engine.new evaluator).performAll (order.map calls)).1.environment?
  /-- No run is lost: the environment of a notebook is what all its runs since the last
  stop leave. -/
  kept : ∀ name, final.engine.environment? name =
    evaluator.replay (runsSince name (order.map calls))

/-- Runs and stops are linearizable.  Whatever the calls and however their steps fall, there is an
order in which each, made after the one before it, is answered as it was; and a run that looked its
environment up before a stop of its notebook changes no environment that a notebook has after it. -/
theorem linearizable (evaluator : Evaluator ε ν) (calls : ι → Call σ) (steps : List (Step ι))
    (final : Interleaved ε ν σ ι) (h : (new evaluator).after? calls steps = some final)
    (hsettled : final.Settled) :
    (∃ order, Linearized evaluator calls steps final order) ∧
      ∀ before between i j held left,
        (new evaluator).after? calls (before ++ .start j :: between) = some held →
        .start i ∈ before → held.next? calls (.finish i) = some left →
        ∀ id source channel state, calls i = .run id source channel state →
          calls j = .stop id.name → left.engine.environment? = held.engine.environment? := by
  have hcons : Consistent calls (new evaluator : Interleaved ε ν σ ι) := Consistent.new evaluator
  have hwaiting : ∀ i, (new evaluator : Interleaved ε ν σ ι).stage i = .waiting := fun _ => rfl
  have hmem : ∀ i, i ∈ (new evaluator).order calls steps ↔ .start i ∈ steps := by
    intro i
    rw [mem_order hcons h hsettled, ← ne_waiting_iff h (hwaiting i)]
    exact and_iff_right (.inl (hwaiting i))
  obtain ⟨henvironments, hanswers⟩ := performAll_order hcons h hsettled (Agrees.new evaluator)
  have hengine := (Engine.new evaluator).performAll_eq
    (((new evaluator : Interleaved ε ν σ ι).order calls steps).map calls)
  have hsame := henvironments.symm.trans (congrArg Prod.fst hengine)
  refine ⟨⟨(new evaluator).order calls steps, ?_⟩, ?_⟩
  · refine ⟨nodup_order hcons h hsettled, hmem, ?_, ?_, ?_, hsame, ?_⟩
    · intro i hi j hj hprecedes
      exact sublist_order_of_precedes hcons h hsettled hi hj (hwaiting j) hprecedes
    · rintro before after i j rfl hstarted id source channel state hrun hstop
      exact sublist_order_of_stop hcons h hsettled hwaiting hrun hstop hstarted
    · exact hanswers.trans (congrArg (fun done => done.2.map Stage.answered) hengine)
    · intro name
      exact (congrFun hsame name).trans (Engine.environment?_performAll evaluator _ name)
  · intro before between i j held left hheld hstarted hfinish id source channel state hrun hstop
    exact environment?_eq_of_stop hcons hheld hwaiting hrun hstop hstarted hfinish

/-- Two runs of a notebook and a stop of it. -/
def overtaken : Fin 3 → Call Bytes
  | 0 => .run ⟨"a.unb", by decide⟩ "one" bufferChannel []
  | 1 => .stop "a.unb"
  | 2 => .run ⟨"a.unb", by decide⟩ "two" bufferChannel []

/-- The first run looks its environment up, the notebook is stopped, and the second run is over
before the first executes its cell. -/
theorem linearizable_overtaken :
    ∃ final, (new Evaluator.echo).after? overtaken
        [.start 0, .start 1, .start 2, .finish 2, .finish 0] = some final ∧
      ∃ order, Linearized Evaluator.echo overtaken
        [.start 0, .start 1, .start 2, .finish 2, .finish 0] final order := by
  refine ⟨_, rfl, ?_⟩
  refine (linearizable _ _ _ _ rfl ?_).1
  intro i handle
  match i with
  | 0 => exact nofun
  | 1 => exact nofun
  | 2 => exact nofun

end Cellbook.Interleaved
