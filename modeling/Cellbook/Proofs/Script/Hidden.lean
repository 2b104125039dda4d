import Cellbook.Proofs.Script.Compaction

/-!
# Hidden variables

A variable that a newer one of its name hides is out of reach of a script: what is found, changed or
declared by name is found, changed or declared alike without it.  Two machines are alike if they
differ in nothing but hidden variables below what the script has brought into scope
(`Machine.Alike`), and a computation respects this if it ends alike, and leaves machines alike, on
any two of them (`Run.Respects`).

A block forgets its variables by their number, so machines are compared above a fixed number of
variables of each.  The body of a function has no variables below it.
-/

namespace Cellbook.Script

open Environment (newest newest_cons find?_newest)

/-! ## Changes by name -/

section Scopes

variable {name other : String} {change : Binding → Binding} {own scope scope' : List Binding}

@[simp] theorem length_updateBinding :
    (Run.updateBinding name change scope).length = scope.length := by
  induction scope with
  | nil => rfl
  | cons b scope ih =>
      rw [Run.updateBinding]
      split
      · rfl
      · rw [List.length_cons, List.length_cons, ih]

theorem updateBinding_append :
    Run.updateBinding name change (own ++ scope) =
      if own.any (·.name == name) then Run.updateBinding name change own ++ scope
      else own ++ Run.updateBinding name change scope := by
  induction own with
  | nil => rfl
  | cons b own ih =>
      rw [List.cons_append, Run.updateBinding, Run.updateBinding, List.any_cons]
      by_cases hb : (b.name == name) = true
      · simp [hb]
      · simp only [hb, ih, Bool.false_or, Bool.false_eq_true, if_false]
        split <;> rfl

/-- A change of one variable is no matter to those of other names. -/
theorem filter_updateBinding (hname : name ≠ other)
    (hchange : ∀ b, b.name = name → (change b).name = name) :
    (Run.updateBinding name change scope).filter (·.name != other) =
      Run.updateBinding name change (scope.filter (·.name != other)) := by
  induction scope with
  | nil => rfl
  | cons b scope ih =>
      rw [Run.updateBinding, List.filter_cons]
      by_cases hb : b.name = name
      · have hkept : (change b).name ≠ other := (hchange b hb).trans_ne hname
        simp [hb, hname, hkept, Run.updateBinding]
      · by_cases hother : b.name = other
        · simp [hother, ih, hname.symm]
        · simp [hb, hother, ih, Run.updateBinding]

/-- The newest variable of a name is changed where it is kept. -/
theorem newest_updateBinding (hchange : ∀ b, b.name = name → (change b).name = name) :
    newest [] (Run.updateBinding name change scope) =
      Run.updateBinding name change (newest [] scope) := by
  induction scope with
  | nil => rfl
  | cons b scope ih =>
      rw [newest_cons, Run.updateBinding, Run.updateBinding]
      by_cases hb : b.name = name
      · rw [if_pos (beq_iff_eq.mpr hb), if_pos (beq_iff_eq.mpr hb), newest_cons, hchange b hb, hb]
      · rw [if_neg (by simpa using hb), if_neg (by simpa using hb), newest_cons, ih,
          filter_updateBinding (Ne.symm hb) hchange]

/-- Variables in front hide the same of scopes that have the same newest variables. -/
theorem newest_append_congr (h : newest [] scope = newest [] scope') :
    newest [] (own ++ scope) = newest [] (own ++ scope') := by
  induction own with
  | nil => exact h
  | cons b own ih => rw [List.cons_append, List.cons_append, newest_cons, newest_cons, ih]

theorem find?_congr (h : newest [] scope = newest [] scope') :
    scope.find? (·.name == name) = scope'.find? (·.name == name) := by
  rw [← find?_newest, h, find?_newest]

end Scopes

/-! ## Machines -/

/-- Two machines that differ in nothing but hidden variables, among `n` and `n'` variables below
those that they have in common. -/
structure Machine.Alike (n n' : Nat) (m m' : Machine) : Prop where
  scope : ∃ own below below', m.scope = own ++ below ∧ m'.scope = own ++ below' ∧
    below.length = n ∧ below'.length = n' ∧ newest [] below = newest [] below'
  receiver_eq : m.receiver = m'.receiver
  cells_eq : m.cells = m'.cells
  printed_eq : m.printed = m'.printed
  steps_eq : m.steps = m'.steps

namespace Machine.Alike

variable {n n' : Nat} {m m' : Machine}

theorem newest_scope_eq (h : m.Alike n n' m') : newest [] m.scope = newest [] m'.scope := by
  obtain ⟨own, below, below', hscope, hscope', -, -, hnewest⟩ := h.scope
  rw [hscope, hscope', newest_append_congr hnewest]

theorem find?_eq (h : m.Alike n n' m') (name : String) :
    m.scope.find? (·.name == name) = m'.scope.find? (·.name == name) :=
  find?_congr h.newest_scope_eq

theorem declare (h : m.Alike n n' m') (b : Binding) :
    Machine.Alike n n' { m with scope := b :: m.scope } { m' with scope := b :: m'.scope } := by
  obtain ⟨own, below, below', hscope, hscope', hbelow⟩ := h.scope
  refine ⟨⟨b :: own, below, below', ?_, ?_, hbelow⟩, h.receiver_eq, h.cells_eq, h.printed_eq,
    h.steps_eq⟩
  · exact congrArg (b :: ·) hscope
  · exact congrArg (b :: ·) hscope'

theorem update (h : m.Alike n n' m') (name : String) (change : Binding → Binding)
    (hchange : ∀ b, b.name = name → (change b).name = name) :
    Machine.Alike n n' { m with scope := Run.updateBinding name change m.scope }
      { m' with scope := Run.updateBinding name change m'.scope } := by
  obtain ⟨own, below, below', hscope, hscope', hlength, hlength', hnewest⟩ := h.scope
  refine ⟨?_, h.receiver_eq, h.cells_eq, h.printed_eq, h.steps_eq⟩
  dsimp only
  rw [hscope, hscope', updateBinding_append, updateBinding_append]
  -- The variable is among those in common, or it is looked for below them.
  split
  · exact ⟨_, below, below', rfl, rfl, hlength, hlength', hnewest⟩
  · refine ⟨own, _, _, rfl, rfl, ?_, ?_, ?_⟩
    · rw [length_updateBinding, hlength]
    · rw [length_updateBinding, hlength']
    · rw [newest_updateBinding hchange, newest_updateBinding hchange, hnewest]

/-- To drop what has come into scope since there were `k` variables in common drops the same. -/
theorem drop (h : m.Alike n n' m') (k : Nat) :
    Machine.Alike n n' { m with scope := m.scope.drop (m.scope.length - (k + n)) }
      { m' with scope := m'.scope.drop (m'.scope.length - (k + n')) } := by
  obtain ⟨own, below, below', hscope, hscope', hlength, hlength', hnewest⟩ := h.scope
  have hdrop (scope : List Binding) :
      (own ++ scope).drop ((own ++ scope).length - (k + scope.length)) =
        own.drop (own.length - k) ++ scope := by
    rw [List.length_append, Nat.add_sub_add_right, List.drop_append_of_le_length (Nat.sub_le _ _)]
  refine ⟨⟨own.drop (own.length - k), below, below', ?_, ?_, hlength, hlength', hnewest⟩,
    h.receiver_eq, h.cells_eq, h.printed_eq, h.steps_eq⟩
  · rw [← hdrop below, ← hlength, hscope]
  · rw [← hdrop below', ← hlength', hscope']

end Machine.Alike

/-! ## Computations -/

/-- Two computations have ended alike and left machines alike. -/
inductive ResultsAlike {α : Type} (n n' : Nat) :
    EStateM.Result Interrupt Machine α → EStateM.Result Interrupt Machine α → Prop
  | ok (a : α) {m m' : Machine} (h : m.Alike n n' m') : ResultsAlike n n' (.ok a m) (.ok a m')
  | error (i : Interrupt) {m m' : Machine} (h : m.Alike n n' m') :
      ResultsAlike n n' (.error i m) (.error i m')

namespace Run

/-- A computation that does not tell machines apart that are alike. -/
def Respects {α : Type} (run : Run α) : Prop :=
  ∀ ⦃n n' m m'⦄, Machine.Alike n n' m m' → ResultsAlike n n' (run m) (run m')

namespace Respects

variable {α β : Type} {run : Run α}

theorem pure (a : α) : Respects (pure a : Run α) := fun _ _ _ _ h => .ok a h

theorem throw (i : Interrupt) : Respects (throw i : Run α) := fun _ _ _ _ h => .error i h

theorem bind {next : α → Run β} (h : Respects run) (hnext : ∀ a, Respects (next a)) :
    Respects (run >>= next) := by
  intro n n' m m' hm
  show ResultsAlike n n' (EStateM.bind run next m) (EStateM.bind run next m')
  have hrun := h hm
  rw [EStateM.bind, EStateM.bind]
  generalize run m = result, run m' = result' at hrun
  cases hrun with
  | ok a hafter => exact hnext a hafter
  | error i hafter => exact .error i hafter

/-- What is read off a machine, and is the same for machines that are alike, may decide how a
computation goes on. -/
theorem reading {next : Machine → Run α} (hnext : ∀ m, Respects (next m))
    (hsame : ∀ {n n' m m'}, Machine.Alike n n' m m' → next m = next m') :
    Respects (get >>= next) := by
  intro n n' m m' hm
  show ResultsAlike n n' (next m m) (next m' m')
  rw [hsame hm]
  exact hnext m' hm

theorem changing {change : Machine → Machine}
    (h : ∀ {n n' m m'}, Machine.Alike n n' m m' → (change m).Alike n n' (change m')) :
    Respects (modify change : Run Unit) :=
  fun _ _ _ _ hm => .ok () (h hm)

theorem exists_attempt (h : Respects run) {n n' : Nat} {m m' : Machine} (hm : m.Alike n n' m') :
    ∃ outcome after after', Run.attempt run m = .ok outcome after ∧
      Run.attempt run m' = .ok outcome after' ∧ after.Alike n n' after' := by
  have hrun := h hm
  rw [Run.attempt, Run.attempt]
  generalize run m = result, run m' = result' at hrun
  cases hrun with
  | ok a hafter => exact ⟨.ok a, _, _, rfl, rfl, hafter⟩
  | error i hafter => exact ⟨.error i, _, _, rfl, rfl, hafter⟩

theorem attempt (h : Respects run) : Respects (attempt run) := by
  intro n n' m m' hm
  obtain ⟨outcome, after, after', hrun, hrun', hafter⟩ := h.exists_attempt hm
  rw [hrun, hrun']
  exact .ok outcome hafter

theorem mapM {f : α → Run β} (h : ∀ a, Respects (f a)) (items : List α) :
    Respects (items.mapM f) := by
  induction items with
  | nil => exact .pure []
  | cons a items ih =>
      rw [List.mapM_cons]
      exact .bind (h a) fun b => .bind ih fun bs => .pure (b :: bs)

/-! ### Ends -/

theorem fail (cause : Cause) (position : Position) : Respects (fail cause position : Run α) :=
  .throw _

theorem ofOutcome (position : Position) (outcome : Outcome α) :
    Respects (ofOutcome position outcome) := by
  cases outcome with
  | ok a => exact .pure a
  | error cause => exact .fail cause position

theorem settle (outcome : Except Interrupt α) : Respects (settle outcome) := by
  cases outcome with
  | ok a => exact .pure a
  | error i => exact .throw i

theorem ending {run : Run Ended} (h : Respects run) : Respects (ending run) := by
  refine .bind h.attempt fun outcome => ?_
  cases outcome with
  | ok ended => exact .pure ended
  | error i => exact .pure ((none, .error i) : Ended)

theorem condition (position : Position) (value : Value) : Respects (condition position value) := by
  cases value with
  | bool b => exact .pure b
  | _ => exact .fail ..

/-! ### Variables and cells -/

theorem find? (name : String) : Respects (find? name) := by
  refine .reading (fun _ => .pure _) fun h => ?_
  rw [h.find?_eq]

theorem flatten (value : Value) : Respects (flatten value) := by
  cases value with
  | shared cell =>
      refine .reading (fun _ => .pure _) fun h => ?_
      rw [h.cells_eq]
  | _ => exact .pure _

theorem parameter (name : String) (value : Value) : Respects (parameter name value) := by
  cases value with
  | shared cell =>
      refine .reading (fun _ => .pure _) fun h => ?_
      rw [h.cells_eq]
  | _ => exact .pure _

theorem current (binding : Binding) : Respects (current binding) := by
  rw [Script.current]
  split
  · refine .reading (fun _ => .pure _) fun h => ?_
    rw [h.cells_eq]
  · exact .pure _

theorem declare (name : String) (constant : Bool) (value : Value) :
    Respects (declare name constant value) :=
  .changing fun h => h.declare _

theorem redeclare (name : String) (constant : Bool) (value : Value) :
    Respects (redeclare name constant value) :=
  .changing fun h => h.update _ _ fun _ _ => rfl

theorem assign (binding : Binding) (value : Value) : Respects (assign binding value) := by
  rw [Run.assign]
  split
  · split
    · refine .changing fun h => ⟨h.scope, h.receiver_eq, ?_, h.printed_eq, h.steps_eq⟩
      rw [h.cells_eq]
    · exact .pure ()
  · exact .changing fun h => h.update _ _ fun _ hb => hb

theorem share (name : String) (position : Position) : Respects (share name position) := by
  refine .bind (.find? name) fun found => ?_
  cases found with
  | none => exact .fail ..
  | some binding =>
      dsimp only
      split
      · refine .reading (fun m => .bind (.changing fun h => ?_) fun _ => .pure _) fun h => ?_
        · obtain ⟨hscope, hreceiver, -, hprinted, hsteps⟩ :=
            h.update name (fun b => { b with value := .shared m.cells.length })
              fun _ hb => hb
          exact ⟨hscope, hreceiver, congrArg (· ++ _) h.cells_eq, hprinted, hsteps⟩
        · rw [h.cells_eq]
      · exact .pure _

/-! ### Steps, prints and frames -/

theorem tick (frame : Frame) (position : Position) : Respects (tick frame position) := by
  refine .bind (.changing fun h => ?_) fun _ => ?_
  · exact ⟨h.scope, h.receiver_eq, h.cells_eq, h.printed_eq, congrArg (· + 1) h.steps_eq⟩
  · refine .reading (fun m => ?_) fun h => ?_
    · split
      · exact .fail ..
      · exact .pure ()
    · rw [h.steps_eq]

theorem print (text : String) : Respects (print text) :=
  .changing fun h =>
    ⟨h.scope, h.receiver_eq, h.cells_eq, congrArg ((text ++ "\n") :: ·) h.printed_eq, h.steps_eq⟩

theorem setReceiver (receiver : Option Receiver) :
    Respects (modify fun m => { m with receiver := receiver } : Run Unit) :=
  .changing fun h => ⟨h.scope, rfl, h.cells_eq, h.printed_eq, h.steps_eq⟩

theorem enclosed_eq {m after : Machine} {outcome : Except Interrupt α}
    (h : Run.attempt run m = .ok outcome after) :
    Run.enclosed run m = Run.settle outcome
      { after with scope := after.scope.drop (after.scope.length - m.scope.length) } := by
  show EStateM.bind (Run.attempt run) _ m = _
  rw [EStateM.bind, h]
  rfl

theorem inside_eq {scope : List Binding} {receiver : Option Receiver} {m after : Machine}
    {outcome : Except Interrupt α}
    (h : Run.attempt run { m with scope := scope, receiver := receiver } = .ok outcome after) :
    Run.inside scope receiver run m =
      .ok (outcome, after.receiver)
        { after with scope := m.scope, receiver := m.receiver } := by
  show EStateM.bind (Run.attempt run) _ { m with scope := scope, receiver := receiver } = _
  rw [EStateM.bind, h]
  rfl

/-- A block forgets the same variables, for it has brought the same into scope. -/
theorem enclosed (h : Respects run) : Respects (enclosed run) := by
  intro n n' m m' hm
  obtain ⟨outcome, after, after', hrun, hrun', hafter⟩ := h.exists_attempt hm
  obtain ⟨own, below, below', hscope, hscope', rfl, rfl, -⟩ := hm.scope
  have hdropped := hafter.drop own.length
  rw [← List.length_append, ← List.length_append, ← hscope, ← hscope'] at hdropped
  rw [enclosed_eq hrun, enclosed_eq hrun']
  exact Respects.settle outcome hdropped

/-- A function does not see the variables of its caller. -/
theorem inside (scope : List Binding) (receiver : Option Receiver) (h : Respects run) :
    Respects (inside scope receiver run) := by
  intro n n' m m' hm
  have hstart : Machine.Alike 0 0 { m with scope := scope, receiver := receiver }
      { m' with scope := scope, receiver := receiver } :=
    ⟨⟨scope, [], [], (List.append_nil _).symm, (List.append_nil _).symm, rfl, rfl, rfl⟩, rfl,
      hm.cells_eq, hm.printed_eq, hm.steps_eq⟩
  obtain ⟨outcome, after, after', hrun, hrun', hafter⟩ := h.exists_attempt hstart
  rw [inside_eq hrun, inside_eq hrun', hafter.receiver_eq]
  exact .ok _ ⟨hm.scope, hm.receiver_eq, hafter.cells_eq, hafter.printed_eq, hafter.steps_eq⟩

end Respects

end Run

end Cellbook.Script
