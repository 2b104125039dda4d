import Cellbook.Proofs.Engine.Interleaving
import Mathlib.Data.List.Nodup

/-!
# Interleaved calls in order

The order in which interleaved calls can be thought to be made one after another
(`Interleaved.order`).  A run comes where it executes its cell if its notebook still has the
environment that it holds.  The runs that still hold the environment of a notebook as the notebook
is stopped come just before the stop, in the order in which they execute (`runsIn`): none but them
sees that environment again.

Every call has its place once (`mem_order`, `nodup_order`), and a call that was over before another
began comes before it (`sublist_order_of_precedes`).
-/

namespace Cellbook.Interleaved

variable {ε ν σ ι : Type} {calls : ι → Call σ} {now next final : Interleaved ε ν σ ι}

/-! ## Calls yet to be placed -/

/-- A call is yet to be placed in the order: it waits, or it holds the environment of a notebook. -/
def Due (now : Interleaved ε ν σ ι) (i : ι) : Prop :=
  now.stage i = .waiting ∨ ∃ handle, now.stage i = .holding handle ∧ now.engine.Live handle

theorem not_due_of_answered {i : ι} {answer : Answer σ} (h : now.stage i = .answered answer) :
    ¬now.Due i := by
  rintro (hi | ⟨handle, hi, -⟩)
  · exact nomatch h.symm.trans hi
  · exact nomatch h.symm.trans hi

theorem due_iff_live {i : ι} {handle : Handle} (h : now.stage i = .holding handle) :
    now.Due i ↔ now.engine.Live handle := by
  constructor
  · rintro (hi | ⟨held, hi, hlive⟩)
    · exact nomatch h.symm.trans hi
    · exact Stage.holding.inj (hi.symm.trans h) ▸ hlive
  · exact fun hlive => .inr ⟨handle, h, hlive⟩

variable [DecidableEq ι]

theorem not_due_put (engine : Engine ε ν) (i : ι) (answer : Answer σ) :
    ¬(now.put engine i (.answered answer)).Due i :=
  not_due_of_answered (now.stage_put_self engine i (.answered answer))

/-- A step of another call leaves a call due, as long as it leaves its environment to a notebook. -/
theorem due_put_iff {i j : ι} (hij : i ≠ j) {engine : Engine ε ν} {stage : Stage σ}
    (hlive : ∀ handle, now.stage i = .holding handle →
      (engine.Live handle ↔ now.engine.Live handle)) :
    (now.put engine j stage).Due i ↔ now.Due i := by
  rw [Due, Due, now.stage_put_of_ne _ hij]
  exact or_congr Iff.rfl (exists_congr fun handle => and_congr_right fun hi => hlive handle hi)

/-- A stop leaves those calls due that do not hold the environment of the notebook stopped. -/
theorem due_stop_iff {i j : ι} (hij : i ≠ j) {name : String} {stage : Stage σ} :
    (now.put (now.engine.stop name).1 j stage).Due i ↔ now.Due i ∧
      ¬∃ handle, now.engine.registry.find? name = some handle ∧ now.stage i = .holding handle := by
  constructor
  · intro hdue
    constructor
    · refine hdue.imp ?_ ?_
      · exact fun hi => (now.stage_put_of_ne _ hij _).symm.trans hi
      · rintro ⟨handle, hi, hlive⟩
        have hboth := (now.engine.live_stop_iff name handle).mp hlive
        exact ⟨handle, (now.stage_put_of_ne _ hij _).symm.trans hi, hboth.1⟩
    · rintro ⟨handle, hfind, hi⟩
      rw [due_iff_live ((now.stage_put_of_ne _ hij stage).trans hi)] at hdue
      exact (detached_stop hfind j stage).not_live hdue
  · rintro ⟨hi | ⟨handle, hi, hlive⟩, hnot⟩
    · exact .inl ((now.stage_put_of_ne _ hij _).trans hi)
    · refine (due_iff_live ((now.stage_put_of_ne _ hij stage).trans hi)).mpr ?_
      refine (now.engine.live_stop_iff name handle).mpr ⟨hlive, ?_⟩
      exact fun hfind => hnot ⟨handle, hfind, hi⟩

/-- Once a notebook is stopped, no run of it that began before is due. -/
theorem Consistent.not_due_of_stop (hcons : Consistent calls now) {i j : ι} {id : NotebookId}
    {source : String} {channel : Channel σ} {state : σ}
    (hrun : calls i = .run id source channel state) (hi : now.stage i ≠ .waiting) (hij : i ≠ j)
    (stage : Stage σ) : ¬(now.put (now.engine.stop id.name).1 j stage).Due i := by
  rw [Due, now.stage_put_of_ne _ hij]
  rintro (hstage | ⟨handle, hstage, hlive⟩)
  · exact hi hstage
  · exact (hcons.detached_of_stop hstage hrun j stage).not_live hlive

variable [Represent ν]

/-! ## The order -/

/-- The run that a step executes in the environment that a handle holds, if it does. -/
def executedIn? (now : Interleaved ε ν σ ι) (handle : Handle) : Step ι → Option ι
  | .start _ => none
  | .finish i =>
    match now.stage i with
    | .holding held => if held = handle then some i else none
    | _ => none

/-- The runs that steps execute in the environment that a handle holds, in order. -/
def runsIn (calls : ι → Call σ) (handle : Handle) (now : Interleaved ε ν σ ι) :
    List (Step ι) → List ι
  | [] => []
  | step :: steps =>
    match now.next? calls step with
    | none => []
    | some next => (now.executedIn? handle step).toList ++ next.runsIn calls handle steps

/-- The calls that a step puts in order, by what it leads to and the steps that follow. -/
def placed (calls : ι → Call σ) (now next : Interleaved ε ν σ ι) (steps : List (Step ι)) :
    Step ι → List ι
  | .start i =>
    match calls i with
    | .run _ source _ _ => if (CellParts.ofSource source).isEmpty then [i] else []
    | .stop name =>
      -- From here on the environment is out of sight, and those who hold it may go first.
      match now.engine.registry.find? name with
      | none => [i]
      | some handle => next.runsIn calls handle steps ++ [i]
  | .finish i =>
    match now.stage i, calls i with
    | .holding handle, .run id _ _ _ =>
      if now.engine.registry.find? id.name = some handle then [i] else []
    | _, _ => []

/-- A sequential order of calls, by the steps they take. -/
def order (calls : ι → Call σ) (now : Interleaved ε ν σ ι) : List (Step ι) → List ι
  | [] => []
  | step :: steps =>
    match now.next? calls step with
    | none => []
    | some next => now.placed calls next steps step ++ next.order calls steps

theorem runsIn_cons {step : Step ι} (h : now.next? calls step = some next) (handle : Handle)
    (steps : List (Step ι)) :
    now.runsIn calls handle (step :: steps) =
      (now.executedIn? handle step).toList ++ next.runsIn calls handle steps := by
  rw [runsIn, h]

theorem order_cons {step : Step ι} (h : now.next? calls step = some next)
    (steps : List (Step ι)) :
    now.order calls (step :: steps) =
      now.placed calls next steps step ++ next.order calls steps := by
  rw [order, h]

/-! ## Runs in a detached environment -/

omit [DecidableEq ι] [Represent ν] in
theorem executedIn?_eq_some_iff {handle : Handle} {step : Step ι} {i : ι} :
    now.executedIn? handle step = some i ↔ step = .finish i ∧ now.stage i = .holding handle := by
  cases step with
  | start j => exact ⟨nofun, fun h => nomatch h.1⟩
  | finish j =>
      rw [executedIn?]
      constructor
      · intro h
        split at h
        · next held hheld =>
            split at h
            · next heq =>
                cases h
                exact ⟨rfl, heq ▸ hheld⟩
            · exact nomatch h
        · exact nomatch h
      · rintro ⟨⟨⟩, hi⟩
        simp [hi]

/-- The runs executed in a detached environment are those that hold it. -/
theorem mem_runsIn {handle : Handle} {steps : List (Step ι)} (hdetached : now.Detached handle)
    (h : now.after? calls steps = some final)
    (hsettled : final.Settled) {i : ι} :
    i ∈ now.runsIn calls handle steps ↔ now.stage i = .holding handle := by
  induction steps generalizing now with
  | nil =>
      cases h
      exact ⟨fun hmem => absurd hmem List.not_mem_nil, fun hi => absurd hi (hsettled i handle)⟩
  | cons step steps ih =>
      obtain ⟨next, hnext, hstep, hafter⟩ := after?_cons h
      rw [runsIn_cons hnext, List.mem_append, Option.mem_toList,
        executedIn?_eq_some_iff, ih (hdetached.advance hstep) hafter,
        hdetached.holding_iff hstep]
      constructor
      · rintro (⟨-, hi⟩ | ⟨hi, -⟩) <;> exact hi
      · intro hi
        by_cases hfinish : step = .finish i
        · exact .inl ⟨hfinish, hi⟩
        · exact .inr ⟨hi, hfinish⟩

theorem nodup_runsIn {handle : Handle} {steps : List (Step ι)} (hdetached : now.Detached handle)
    (h : now.after? calls steps = some final)
    (hsettled : final.Settled) : (now.runsIn calls handle steps).Nodup := by
  induction steps generalizing now with
  | nil => exact List.nodup_nil
  | cons step steps ih =>
      obtain ⟨next, hnext, hstep, hafter⟩ := after?_cons h
      have hdetached' := hdetached.advance hstep
      have hlater := ih hdetached' hafter
      rw [runsIn_cons hnext]
      rcases hexecuted : now.executedIn? handle step with _ | i
      · exact hlater
      · refine List.nodup_cons.mpr ⟨fun hmem => ?_, hlater⟩
        change i ∈ next.runsIn calls handle steps at hmem
        rw [mem_runsIn hdetached' hafter hsettled, hdetached.holding_iff hstep] at hmem
        exact hmem.2 (executedIn?_eq_some_iff.mp hexecuted).1

/-! ## Places in the order -/

/-- A stop places itself and the runs that hold the environment of the notebook stopped. -/
theorem mem_placed_stop {steps : List (Step ι)} {j : ι} {name : String} {answer : Answer σ}
    (hcall : calls j = .stop name)
    (hnext : next = now.put (now.engine.stop name).1 j (.answered answer))
    (h : next.after? calls steps = some final) (hsettled : final.Settled) {i : ι} :
    i ∈ now.placed calls next steps (.start j) ↔ i = j ∨ ∃ handle,
      now.engine.registry.find? name = some handle ∧ next.stage i = .holding handle := by
  rw [placed, hcall]
  dsimp only
  rcases hfind : now.engine.registry.find? name with _ | handle
  · simp
  · have hdetached : next.Detached handle := hnext ▸ detached_stop hfind j _
    simp [mem_runsIn hdetached h hsettled, or_comm]

/-- The calls that a step places are those that are due before it and not after it. -/
theorem mem_placed {step : Step ι} {steps : List (Step ι)} (hcons : Consistent calls now)
    (hstep : Advance calls now step next) (h : next.after? calls steps = some final)
    (hsettled : final.Settled) {i : ι} :
    i ∈ now.placed calls next steps step ↔ now.Due i ∧ ¬next.Due i := by
  cases hstep with
  | @stop j name hstage hcall =>
      rw [mem_placed_stop hcall rfl h hsettled]
      by_cases hij : i = j
      · subst hij
        exact ⟨fun _ => ⟨.inl hstage, not_due_put _ _ _⟩, fun _ => .inl rfl⟩
      · rw [or_iff_right hij, now.stage_put_of_ne _ hij, due_stop_iff hij]
        constructor
        · rintro ⟨handle, hfind, hi⟩
          exact ⟨(due_iff_live hi).mpr ⟨name, hfind⟩, fun hdue => hdue.2 ⟨handle, hfind, hi⟩⟩
        · rintro ⟨hdue, hnot⟩
          by_contra hheld
          exact hnot ⟨hdue, hheld⟩
  | @blank j id source channel state hstage hcall hblank =>
      simp only [placed, hcall, hblank, if_true, List.mem_singleton]
      by_cases hij : i = j
      · subst hij
        exact ⟨fun _ => ⟨.inl hstage, not_due_put _ _ _⟩, fun _ => rfl⟩
      · rw [due_put_iff hij fun handle hi => now.engine.live_lookUp_iff (hcons.bounded hi) id]
        exact ⟨fun heq => absurd heq hij, fun hdue => absurd hdue.1 hdue.2⟩
  | @lookUp j id source channel state hstage hcall hblank =>
      simp only [placed, hcall, hblank, Bool.false_eq_true, if_false, List.not_mem_nil, false_iff]
      rintro ⟨hdue, hnot⟩
      by_cases hij : i = j
      · subst hij
        exact hnot (.inr ⟨_, now.stage_put_self _ _ _, now.engine.live_lookUp_self id⟩)
      · rw [due_put_iff hij fun handle hi => now.engine.live_lookUp_iff (hcons.bounded hi) id]
          at hnot
        exact hnot hdue
  | @execute j id source channel state handle hstage hcall =>
      have hplaced : i ∈ now.placed calls (now.execute j handle source channel state) steps
          (.finish j) ↔ now.engine.Live handle ∧ i = j := by
        rw [hcons.live_iff hstage hcall]
        simp only [placed, hstage, hcall]
        split <;> simp_all
      rw [hplaced, execute_eq]
      dsimp only
      by_cases hij : i = j
      · subst hij
        rw [due_iff_live hstage]
        exact and_congr_right fun _ => ⟨fun _ => not_due_put _ _ _, fun _ => rfl⟩
      · rw [due_put_iff hij fun held _ => now.engine.live_setEnvironment_iff handle _ held]
        exact ⟨fun h => absurd h.2 hij, fun hdue => absurd hdue.1 hdue.2⟩

/-- A call that is due after a step was due before it. -/
theorem Due.of_advance {step : Step ι} (hcons : Consistent calls now)
    (hstep : Advance calls now step next) {i : ι} (h : next.Due i) : now.Due i := by
  by_cases hi : i = step.call
  · subst hi
    cases hstep with
    | stop hstage hcall => exact .inl hstage
    | blank hstage hcall hblank => exact .inl hstage
    | lookUp hstage hcall hblank => exact .inl hstage
    | execute hstage hcall =>
        rw [execute_eq] at h
        exact absurd h (not_due_put _ _ _)
  · rw [Due, hstep.stage_eq hi] at h
    refine h.imp id ?_
    rintro ⟨handle, hi, hlive⟩
    refine ⟨handle, hi, ?_⟩
    by_contra hnot
    exact (Detached.advance ⟨hcons.bounded hi, hnot⟩ hstep).not_live hlive

/-- The order is made of the calls that are due and come to be answered. -/
theorem mem_order {steps : List (Step ι)} (hcons : Consistent calls now)
    (h : now.after? calls steps = some final) (hsettled : final.Settled) {i : ι} :
    i ∈ now.order calls steps ↔ now.Due i ∧ final.stage i ≠ .waiting := by
  induction steps generalizing now with
  | nil =>
      cases h
      refine ⟨fun hmem => absurd hmem List.not_mem_nil, ?_⟩
      rintro ⟨hi | ⟨handle, hi, -⟩, hne⟩
      · exact absurd hi hne
      · exact absurd hi (hsettled i handle)
  | cons step steps ih =>
      obtain ⟨next, hnext, hstep, hafter⟩ := after?_cons h
      rw [order_cons hnext, List.mem_append, mem_placed hcons hstep hafter hsettled,
        ih (hcons.advance hstep) hafter]
      constructor
      · rintro (⟨hnow, hnot⟩ | ⟨hdue, hne⟩)
        · refine ⟨hnow, ne_waiting_of_ne_waiting hafter fun hwaiting => hnot (.inl hwaiting)⟩
        · exact ⟨hdue.of_advance hcons hstep, hne⟩
      · rintro ⟨hnow, hne⟩
        by_cases hdue : next.Due i
        · exact .inr ⟨hdue, hne⟩
        · exact .inl ⟨hnow, hdue⟩

theorem nodup_placed {step : Step ι} {steps : List (Step ι)}
    (hstep : Advance calls now step next) (h : next.after? calls steps = some final)
    (hsettled : final.Settled) : (now.placed calls next steps step).Nodup := by
  cases hstep with
  | @stop j name hstage hcall =>
      simp only [placed, hcall]
      rcases hfind : now.engine.registry.find? name with _ | handle
      · exact List.nodup_singleton j
      · have hdetached := detached_stop hfind j
          (.answered (.stopped (now.engine.isRunning name)))
        refine (nodup_runsIn hdetached h hsettled).append (List.nodup_singleton j) ?_
        intro i hi hij
        rw [mem_runsIn hdetached h hsettled, List.mem_singleton.mp hij, stage_put_self] at hi
        exact nomatch hi
  | blank hstage hcall hblank =>
      simp only [placed, hcall, hblank, if_true]
      exact List.nodup_singleton _
  | lookUp hstage hcall hblank =>
      simp only [placed, hcall, hblank, Bool.false_eq_true, if_false]
      exact List.nodup_nil
  | execute hstage hcall =>
      simp only [placed, hstage, hcall]
      split
      · exact List.nodup_singleton _
      · exact List.nodup_nil

theorem nodup_order {steps : List (Step ι)} (hcons : Consistent calls now)
    (h : now.after? calls steps = some final) (hsettled : final.Settled) :
    (now.order calls steps).Nodup := by
  induction steps generalizing now with
  | nil => exact List.nodup_nil
  | cons step steps ih =>
      obtain ⟨next, hnext, hstep, hafter⟩ := after?_cons h
      have hcons' := hcons.advance hstep
      rw [order_cons hnext]
      refine (nodup_placed hstep hafter hsettled).append (ih hcons' hafter) ?_
      intro i hplaced hlater
      rw [mem_placed hcons hstep hafter hsettled] at hplaced
      rw [mem_order hcons' hafter hsettled] at hlater
      exact hplaced.2 hlater.1

/-! ## Order in time -/

/-- What is placed at some point and later ends the order. -/
theorem exists_order_append {before : List (Step ι)} (h : now.after? calls before = some next)
    (after : List (Step ι)) :
    ∃ earlier, now.order calls (before ++ after) = earlier ++ next.order calls after := by
  induction before generalizing now with
  | nil =>
      cases h
      exact ⟨[], rfl⟩
  | cons step before ih =>
      obtain ⟨middle, hmiddle, -, hbefore⟩ := after?_cons h
      obtain ⟨earlier, hearlier⟩ := ih hbefore
      refine ⟨now.placed calls middle (before ++ after) step ++ earlier, ?_⟩
      rw [List.cons_append, order_cons hmiddle, hearlier, List.append_assoc]

/-- A call that is due no more at some point comes before one that is. -/
theorem sublist_order {before after : List (Step ι)} (hcons : Consistent calls now)
    (hbefore : now.after? calls before = some next) (hafter : next.after? calls after = some final)
    (hsettled : final.Settled) {i j : ι} (hi : i ∈ now.order calls (before ++ after))
    (hplaced : ¬next.Due i) (hj : j ∈ now.order calls (before ++ after)) (hdue : next.Due j) :
    [i, j].Sublist (now.order calls (before ++ after)) := by
  have hcons' := hcons.after? hbefore
  have hall : now.after? calls (before ++ after) = some final := by
    rw [after?_append, hbefore, Option.bind_some, hafter]
  have hlater : j ∈ next.order calls after := by
    rw [mem_order hcons' hafter hsettled]
    exact ⟨hdue, ((mem_order hcons hall hsettled).mp hj).2⟩
  obtain ⟨earlier, horder⟩ := exists_order_append hbefore after
  rw [horder] at hi ⊢
  rcases List.mem_append.mp hi with hi | hi
  · exact (List.singleton_sublist.mpr hi).append (List.singleton_sublist.mpr hlater)
  · exact absurd ((mem_order hcons' hafter hsettled).mp hi).1 hplaced

/-- Every step of a call was taken before any of another. -/
def Precedes (steps : List (Step ι)) (i j : ι) : Prop :=
  ∃ before after, steps = before ++ after ∧ (∀ step ∈ before, step.call ≠ j) ∧
    ∀ step ∈ after, step.call ≠ i

/-- A call that was over before another began comes before it. -/
theorem sublist_order_of_precedes {steps : List (Step ι)} (hcons : Consistent calls now)
    (h : now.after? calls steps = some final) (hsettled : final.Settled) {i j : ι}
    (hi : i ∈ now.order calls steps) (hj : j ∈ now.order calls steps)
    (hwaiting : now.stage j = .waiting) (hprecedes : Precedes steps i j) :
    [i, j].Sublist (now.order calls steps) := by
  obtain ⟨before, after, rfl, hnotj, hnoti⟩ := hprecedes
  obtain ⟨next, hbefore, hafter⟩ := after?_split h
  refine sublist_order hcons hbefore hafter hsettled hi ?_ hj ?_
  · have hsame := stage_eq_of_forall_ne hafter hnoti
    rintro (hstage | ⟨handle, hstage, -⟩)
    · exact ((mem_order hcons h hsettled).mp hi).2 (hsame.trans hstage)
    · exact hsettled i handle (hsame.trans hstage)
  · exact .inl ((stage_eq_of_forall_ne hbefore hnotj).trans hwaiting)

/-- Before a stop come the runs that hold the environment of the notebook stopped. -/
theorem sublist_placed_of_stop {steps : List (Step ι)} {i j : ι} {name : String}
    (hcall : calls j = .stop name) (hi : i ∈ now.placed calls next steps (.start j)) (hij : i ≠ j) :
    [i, j].Sublist (now.placed calls next steps (.start j)) := by
  rcases hfind : now.engine.registry.find? name with _ | handle
  · simp only [placed, hcall, hfind] at hi
    exact absurd (List.mem_singleton.mp hi) hij
  · simp only [placed, hcall, hfind] at hi ⊢
    rcases List.mem_append.mp hi with hi | hi
    · exact (List.singleton_sublist.mpr hi).append (List.Sublist.refl [j])
    · exact absurd (List.mem_singleton.mp hi) hij

/-- A run that began before a stop of its notebook comes before it. -/
theorem sublist_order_of_stop {i j : ι} {before after : List (Step ι)}
    (hcons : Consistent calls now)
    (h : now.after? calls (before ++ .start j :: after) = some final) (hsettled : final.Settled)
    (hwaiting : ∀ i, now.stage i = .waiting) {id : NotebookId} {source : String}
    {channel : Channel σ} {state : σ} (hrun : calls i = .run id source channel state)
    (hstop : calls j = .stop id.name) (hstarted : .start i ∈ before) :
    [i, j].Sublist (now.order calls (before ++ .start j :: after)) := by
  obtain ⟨next, hbefore, hafter⟩ := after?_split h
  obtain ⟨later, hlater, hstep, hrest⟩ := after?_cons hafter
  have hcons' := hcons.after? hbefore
  have hj : next.stage j = .waiting := by
    cases hstep with
    | stop hstage => exact hstage
    | blank hstage => exact hstage
    | lookUp hstage => exact hstage
  have hi : next.stage i ≠ .waiting := (ne_waiting_iff hbefore (hwaiting i)).mpr hstarted
  by_cases hdue : next.Due i
  · obtain ⟨earlier, horder⟩ := exists_order_append hbefore (.start j :: after)
    rw [horder, order_cons hlater]
    refine List.Sublist.trans ?_ (List.sublist_append_right earlier _)
    refine List.Sublist.trans ?_ (List.sublist_append_left _ _)
    have hij : i ≠ j := fun hij => hi (hij ▸ hj)
    have hnot : ¬later.Due i := by
      cases hstep with
      | stop hstage hcall =>
          cases hstop.symm.trans hcall
          exact hcons'.not_due_of_stop hrun hi hij _
      | blank hstage hcall => exact nomatch hstop.symm.trans hcall
      | lookUp hstage hcall => exact nomatch hstop.symm.trans hcall
    exact sublist_placed_of_stop hstop
      ((mem_placed hcons' hstep hrest hsettled).mpr ⟨hdue, hnot⟩) hij
  · refine sublist_order hcons hbefore hafter hsettled ?_ hdue ?_ (.inl hj)
    · rw [mem_order hcons h hsettled]
      exact ⟨.inl (hwaiting i), ne_waiting_of_ne_waiting hafter hi⟩
    · rw [mem_order hcons h hsettled]
      refine ⟨.inl (hwaiting j), (ne_waiting_iff h (hwaiting j)).mpr ?_⟩
      exact List.mem_append_right _ List.mem_cons_self

end Cellbook.Interleaved
