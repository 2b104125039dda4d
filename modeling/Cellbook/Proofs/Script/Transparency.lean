import Cellbook.Proofs.Script.Ahead
import Cellbook.Proofs.Script.Lookups
import Cellbook.Proofs.Script.Rejection

/-!
# Compaction as scripts see it

Next to the script language stands the one that never compacts (`keeper`), and both are asked for
the same, call after call.  As far as compaction drops hidden variables, no script can tell: the
environments of the two stay alike (`Environment.Alike`), and from environments that are alike
programs are read, run and evaluated alike.

But where it drops any, compaction also gives every variable that it keeps a copy of its value, and
one that closures share is cut off from them.  So the two languages answer alike up to and including
the first call whose compaction cuts off a variable (`answer_eq_of_intact`), and after it they may
not (`answer_ne`).
-/

namespace Cellbook

/-! ## Calls, one after another -/

/-- What a language may be asked for. -/
inductive Ask where
  /-- To run a source text as statements. -/
  | run (source : String)
  /-- To evaluate a source text as one expression. -/
  | evaluate (source : String)

namespace Evaluator

variable {ε ν : Type}

/-- What an evaluator answers in an environment. -/
def answer (evaluator : Evaluator ε ν) (environment : ε) : Ask → Called ε (Option ν)
  | .run source => (evaluator.run environment source).withoutValue
  | .evaluate source => evaluator.evaluate? environment source

/-- The environment after calls, one after another. -/
def after (evaluator : Evaluator ε ν) (environment : ε) (history : List Ask) : ε :=
  history.foldl (fun environment ask => (evaluator.answer environment ask).environment) environment

end Evaluator

namespace Script

open Environment (newest newest_newest newest_sublist)

/-! ## Environments -/

/-- Two environments that differ in nothing but hidden variables. -/
structure Environment.Alike (environment other : Environment) : Prop where
  newest_eq : newest [] environment.scope = newest [] other.scope
  library_eq : environment.library = other.library
  cells_eq : environment.cells = other.cells
  lambdas_eq : environment.lambdas = other.lambdas

namespace Environment.Alike

variable {environment other : Environment}

theorem refl (environment : Environment) : environment.Alike environment := ⟨rfl, rfl, rfl, rfl⟩

theorem trans {third : Environment} (h : environment.Alike other) (h' : other.Alike third) :
    environment.Alike third :=
  ⟨h.newest_eq.trans h'.newest_eq, h.library_eq.trans h'.library_eq,
    h.cells_eq.trans h'.cells_eq, h.lambdas_eq.trans h'.lambdas_eq⟩

theorem find?_eq (h : environment.Alike other) (name : String) :
    environment.find? name = other.find? name :=
  find?_congr h.newest_eq

theorem flatten_eq (h : environment.Alike other) : environment.flatten = other.flatten := by
  funext value
  cases value with
  | shared cell => rw [flatten, flatten, h.cells_eq]
  | _ => rfl

end Environment.Alike

/-- Whether a variable shares its value with closures, which is what `is_shared` tells of it. -/
def Environment.shares? (environment : Environment) (name : String) : Option Bool :=
  (environment.find? name).map fun b => b.value.isShared

/-- What is read of a variable by its name. -/
structure Environment.ReadsAs (environment other : Environment) (name : String) : Prop where
  contains_eq : environment.contains name = other.contains name
  get?_eq : environment.get? name = other.get? name
  constant?_eq : environment.constant? name = other.constant? name

theorem Environment.ReadsAs.trans {environment other third : Environment} {name : String}
    (h : environment.ReadsAs other name) (h' : other.ReadsAs third name) :
    environment.ReadsAs third name :=
  ⟨h.contains_eq.trans h'.contains_eq, h.get?_eq.trans h'.get?_eq,
    h.constant?_eq.trans h'.constant?_eq⟩

theorem Environment.Alike.readsAs {environment other : Environment} (h : environment.Alike other)
    (name : String) : environment.ReadsAs other name where
  contains_eq := by rw [contains, contains, h.find?_eq]
  get?_eq := by rw [get?, get?, h.find?_eq, h.flatten_eq]
  constant?_eq := by rw [constant?, constant?, h.find?_eq]

theorem Environment.Alike.shares?_eq {environment other : Environment}
    (h : environment.Alike other) (name : String) :
    environment.shares? name = other.shares? name := by
  rw [shares?, shares?, h.find?_eq]

/-- A script is told by `is_shared` whether a variable shares its value. -/
theorem isShared_eq {environment : Environment} {m : Machine} (h : m.scope = environment.scope)
    (name : String) (position : Position) :
    isShared name position m =
      match environment.shares? name with
      | some shared => .ok (.bool shared) m
      | none => (Run.fail (.variableNotFound name) position : Run Value) m := by
  have hfind : Run.find? name m = .ok (environment.find? name) m := by
    rw [Environment.find?, ← h]
    rfl
  unfold isShared
  simp only [bind, EStateM.bind, hfind, Environment.shares?]
  rcases environment.find? name with _ | ⟨_, _, value⟩
  · rfl
  · cases value <;> rfl

/-! ## Reading and running -/

/-- What is known of a name ahead is known of its newest variable. -/
theorem Environment.lookup_known (environment : Environment) (name : String) :
    environment.known.lookup name = (environment.find? name).map fun b =>
      if b.constant then some (environment.flatten b.value) else none := by
  rw [known, find?]
  induction environment.scope with
  | nil => rfl
  | cons b scope ih =>
      rw [List.map_cons, List.lookup_cons, List.find?_cons, ih]
      by_cases hname : b.name = name
      · subst hname
        simp
      · rw [beq_eq_false_iff_ne.mpr hname, beq_eq_false_iff_ne.mpr (Ne.symm hname)]

namespace Environment.Alike

variable {environment other : Environment}

theorem agrees_known (h : environment.Alike other) : environment.known.Agrees other.known := by
  intro name
  rw [Simplify.Known.value?, Simplify.Known.value?, lookup_known, lookup_known, h.find?_eq,
    h.flatten_eq]

/-- Programs are read alike. -/
theorem read_eq (h : environment.Alike other)
    (reader : Nat → String → Except SyntaxFault Program) (source : String) :
    environment.read reader source = other.read reader source := by
  rw [read, read, h.lambdas_eq]
  congr 1
  funext program
  exact Simplify.simplifyProgram_congr _ h.agrees_known program

end Environment.Alike

/-- Two programs have run alike and left environments alike. -/
structure Ran.Alike {α : Type} (ran other : Ran α) : Prop where
  environment : ran.environment.Alike other.environment
  printed_eq : ran.printed = other.printed
  outcome_eq : ran.outcome = other.outcome

/-- Programs run alike. -/
theorem Environment.Alike.execute {environment other : Environment} (h : environment.Alike other)
    (limit : Nat) (library : List Function) (program : Program) :
    (environment.execute limit library program).Alike (other.execute limit library program) := by
  have hstart : Machine.Alike environment.scope.length other.scope.length
      { scope := environment.scope, receiver := none, cells := environment.cells, printed := [],
        steps := 0 }
      { scope := other.scope, receiver := none, cells := other.cells, printed := [], steps := 0 } :=
    ⟨⟨[], _, _, rfl, rfl, rfl, rfl, h.newest_eq⟩, rfl, h.cells_eq, rfl, rfl⟩
  have hrun := respects_runStatements
    ⟨library, other.lambdas ++ program.lambdas, limit⟩ ample program.body hstart
  unfold Environment.execute EStateM.run
  rw [h.lambdas_eq]
  dsimp only
  generalize runStatements _ ample program.body
    { scope := environment.scope, receiver := none, cells := environment.cells, printed := [],
      steps := 0 } = result at hrun ⊢
  generalize runStatements _ ample program.body
    { scope := other.scope, receiver := none, cells := other.cells, printed := [],
      steps := 0 } = result' at hrun ⊢
  cases hrun with
  | ok value hm =>
      exact ⟨⟨hm.newest_scope_eq, h.library_eq, hm.cells_eq, rfl⟩,
        congrArg List.reverse hm.printed_eq, rfl⟩
  | error i hm =>
      cases i <;> exact ⟨⟨hm.newest_scope_eq, h.library_eq, hm.cells_eq, rfl⟩,
        congrArg List.reverse hm.printed_eq, rfl⟩

/-! ## Detachment -/

namespace Environment

/-- Whether compaction would cut a variable off from the closures that share it: some variable is
hidden, and one that is kept shares a cell. -/
def detaches (environment : Environment) : Bool :=
  (newest [] environment.scope).length != environment.scope.length &&
    (newest [] environment.scope).any (·.value.isShared)

/-- A variable that shares no cell holds its value itself. -/
theorem copy_eq_self (environment : Environment) {b : Binding} (h : b.value.isShared = false) :
    environment.copy b = b := by
  rcases b with ⟨name, constant, value⟩
  cases value with
  | shared cell => cases h
  | _ => rfl

/-- Compaction that cuts off no variable drops hidden variables and does nothing else. -/
theorem alike_compact {environment : Environment} (h : environment.detaches = false) :
    environment.compact.Alike environment := by
  by_cases hlength : (newest [] environment.scope).length = environment.scope.length
  · rw [compact_of_length_eq _ hlength]
    exact .refl environment
  · have hshared : ∀ b ∈ newest [] environment.scope, b.value.isShared = false := by
      simpa [detaches, hlength] using h
    have hscope : environment.compact.scope = newest [] environment.scope := by
      rw [scope_compact_of_length_ne _ hlength]
      exact List.map_congr_left (fun b hb => environment.copy_eq_self (hshared b hb)) |>.trans
        (List.map_id _)
    exact ⟨by rw [hscope, newest_newest], environment.library_compact, environment.cells_compact,
      environment.lambdas_compact⟩

/-- A value that stands for itself shares no cell. -/
theorem isShared_flatten (environment : Environment) (value : Value) :
    (environment.flatten value).isShared = false := by
  cases value with
  | shared cell =>
      rw [flatten]
      cases environment.cells[cell]? with
      | none => rfl
      | some cell => exact cell.isShared_value
  | _ => rfl

/-- A variable that is kept is what its name stands for. -/
theorem find?_of_mem_newest (environment : Environment) {b : Binding}
    (h : b ∈ newest [] environment.scope) : environment.find? b.name = some b := by
  rw [find?, ← find?_newest]
  obtain ⟨c, hc⟩ : ∃ c, (newest [] environment.scope).find? (·.name == b.name) = some c :=
    Option.isSome_iff_exists.mp (List.find?_isSome.mpr ⟨b, h, beq_self_eq_true b.name⟩)
  have hname : c.name = b.name := by simpa using List.find?_some hc
  rw [hc, List.inj_on_of_nodup_map (nodup_newest environment.scope) (List.mem_of_find?_eq_some hc) h
    hname]

/-- A variable that compaction cuts off is told from one that is not. -/
theorem exists_shares?_of_detaches {environment : Environment} (h : environment.detaches = true) :
    ∃ name, environment.compact.shares? name = some false ∧
      environment.shares? name = some true := by
  rw [detaches, Bool.and_eq_true, bne_iff_ne, List.any_eq_true] at h
  obtain ⟨hlength, b, hb, hshared⟩ := h
  have hfind := environment.find?_of_mem_newest hb
  have hcut : environment.compact.find? b.name = some (environment.copy b) := by
    rw [find?] at hfind
    rw [find?, scope_compact_of_length_ne _ hlength, List.find?_map]
    exact congrArg (Option.map environment.copy) ((find?_newest b.name _).trans hfind)
  refine ⟨b.name, ?_, ?_⟩
  · rw [shares?, hcut]
    exact congrArg some (environment.isShared_flatten b.value)
  · rw [shares?, hfind]
    exact congrArg some hshared

/-- Whether or not it cuts off a variable, every name is read as before right after compaction. -/
theorem readsAs_compact (environment : Environment) (name : String) :
    environment.compact.ReadsAs environment name :=
  have h := environment.compacted_compact
  ⟨h.contains_eq name, h.get?_eq name, h.constant?_eq name⟩

end Environment

/-! ## The language that never compacts -/

/-- Runs a source text as statements, without compacting. -/
def keepSource (limit : Nat) (environment : Environment) (source : String) :
    Called Environment Unit :=
  match environment.runLoose limit source with
  | .error fault => ⟨environment, [], .error (.parse fault.message)⟩
  | .ok ran =>
    ⟨ran.environment, ran.printed,
      (ran.outcome.map fun _ => ()).mapError fun fault => .execution fault.message⟩

/-- The script language, but for compaction. -/
def keeper (limit : Nat) : Evaluator Environment Value :=
  ⟨.empty, keepSource limit, evaluateSource limit⟩

/-- Whether the compaction after a call cuts off a variable. -/
def detachesAfter (limit : Nat) (environment : Environment) : Ask → Bool
  | .run source => (environment.runLoose limit source).toOption.any (·.environment.detaches)
  | .evaluate _ => false

/-- Whether no compaction cuts off a variable, over all calls of a history. -/
def intact (limit : Nat) (environment : Environment) : List Ask → Bool
  | [] => true
  | ask :: later =>
    !detachesAfter limit environment ask &&
      intact limit ((evaluator limit).answer environment ask).environment later

/-- Two calls have come to the same and left environments alike. -/
structure CalledAlike {α : Type} (called other : Called Environment α) : Prop where
  environment : called.environment.Alike other.environment
  printed_eq : called.printed = other.printed
  outcome_eq : called.outcome = other.outcome

theorem CalledAlike.withoutValue {called other : Called Environment Unit}
    (h : CalledAlike called other) :
    CalledAlike (called.withoutValue (ν := Value)) other.withoutValue where
  environment := by simpa using h.environment
  printed_eq := by simpa using h.printed_eq
  outcome_eq := by simp [h.outcome_eq]

theorem Ran.Alike.called {α β : Type} {ran other : Ran α} (h : ran.Alike other) (f : α → β) :
    CalledAlike
      ⟨ran.environment, ran.printed,
        (ran.outcome.map f).mapError fun fault => .execution fault.message⟩
      ⟨other.environment, other.printed,
        (other.outcome.map f).mapError fun fault => .execution fault.message⟩ :=
  ⟨h.environment, h.printed_eq, by rw [h.outcome_eq]⟩

section

variable {limit : Nat} {environment other : Environment} {source : String}

theorem Environment.Alike.keepSource (h : environment.Alike other) :
    CalledAlike (keepSource limit environment source) (keepSource limit other source) := by
  rw [Script.keepSource, Script.keepSource, runLoose, runLoose, h.read_eq, h.library_eq]
  cases other.read parseScript source with
  | error fault => exact ⟨h, rfl, rfl⟩
  | ok program =>
      have hdefined (library : List Function) :
          Environment.Alike { environment with library } { other with library } :=
        ⟨h.newest_eq, rfl, h.cells_eq, h.lambdas_eq⟩
      exact ((hdefined _).execute limit _ program).called fun _ => ()

theorem Environment.Alike.evaluateSource (h : environment.Alike other) :
    CalledAlike (evaluateSource limit environment source) (evaluateSource limit other source) := by
  delta Script.evaluateSource
  rw [evaluate?, evaluate?, h.read_eq, h.library_eq]
  cases other.read parseExpression source with
  | error fault => exact ⟨h, rfl, rfl⟩
  | ok program =>
      exact (h.execute limit other.library program).called some

/-- In environments that are alike the language that never compacts answers alike. -/
theorem Environment.Alike.keeper_answer (h : environment.Alike other) (ask : Ask) :
    CalledAlike ((keeper limit).answer environment ask) ((keeper limit).answer other ask) := by
  cases ask with
  | run source => exact h.keepSource.withoutValue
  | evaluate source => exact h.evaluateSource

/-! ## What compaction changes -/

/-- What a run answers is what it answers without compaction; unless the program cannot be read, its
environment is compacted. -/
theorem runSource_eq (limit : Nat) (environment : Environment) (source : String) :
    let kept := keepSource limit environment source
    runSource limit environment source =
      ⟨if (environment.runLoose limit source).isOk then kept.environment.compact
        else kept.environment, kept.printed, kept.outcome⟩ := by
  rw [runSource, keepSource, Environment.run]
  cases environment.runLoose limit source <;> rfl

theorem printed_answer (ask : Ask) :
    ((evaluator limit).answer environment ask).printed =
      ((keeper limit).answer environment ask).printed := by
  cases ask with
  | run source => simp [Evaluator.answer, evaluator, keeper, runSource_eq]
  | evaluate source => rfl

theorem outcome_answer (ask : Ask) :
    ((evaluator limit).answer environment ask).outcome =
      ((keeper limit).answer environment ask).outcome := by
  cases ask with
  | run source => simp [Evaluator.answer, evaluator, keeper, runSource_eq]
  | evaluate source => rfl

/-- A call leaves what it leaves without compaction, or that compacted. -/
theorem environment_answer (limit : Nat) (environment : Environment) (ask : Ask) :
    let kept := ((keeper limit).answer environment ask).environment
    ((evaluator limit).answer environment ask).environment = kept ∧
        detachesAfter limit environment ask = false ∨
      ((evaluator limit).answer environment ask).environment = kept.compact ∧
        detachesAfter limit environment ask = kept.detaches := by
  cases ask with
  | evaluate source => exact .inl ⟨rfl, rfl⟩
  | run source =>
      simp only [Evaluator.answer, evaluator, keeper, Called.environment_withoutValue, runSource_eq]
      cases hloose : environment.runLoose limit source with
      | error fault =>
          refine .inl ⟨rfl, ?_⟩
          rw [detachesAfter, hloose]
          rfl
      | ok ran =>
          have hkept : (keepSource limit environment source).environment = ran.environment := by
            rw [keepSource, hloose]
          refine .inr ⟨rfl, ?_⟩
          rw [hkept, detachesAfter, hloose]
          rfl

/-- A call whose compaction cuts off no variable leaves an environment like the one that it leaves
without compaction. -/
theorem alike_answer {ask : Ask} (h : detachesAfter limit environment ask = false) :
    ((evaluator limit).answer environment ask).environment.Alike
      ((keeper limit).answer environment ask).environment := by
  rcases environment_answer limit environment ask with ⟨hkept, -⟩ | ⟨hcompact, hdetaches⟩
  · rw [hkept]
    exact .refl _
  · rw [hcompact]
    exact Environment.alike_compact (hdetaches.symm.trans h)

/-- A call whose compaction cuts off a variable leaves one that no longer shares its value, where
without compaction it does. -/
theorem exists_shares?_answer {ask : Ask} (h : detachesAfter limit environment ask = true) :
    ∃ name, ((evaluator limit).answer environment ask).environment.shares? name = some false ∧
      ((keeper limit).answer environment ask).environment.shares? name = some true := by
  rcases environment_answer limit environment ask with ⟨-, hintact⟩ | ⟨hcompact, hdetaches⟩
  · rw [hintact] at h
    cases h
  · rw [hcompact]
    exact Environment.exists_shares?_of_detaches (hdetaches.symm.trans h)

/-- Whichever variables a call cuts off, all names are read alike right after it. -/
theorem readsAs_answer (ask : Ask) (name : String) :
    ((evaluator limit).answer environment ask).environment.ReadsAs
      ((keeper limit).answer environment ask).environment name := by
  rcases environment_answer limit environment ask with ⟨hkept, -⟩ | ⟨hcompact, -⟩
  · rw [hkept]
    exact ⟨rfl, rfl, rfl⟩
  · rw [hcompact]
    exact Environment.readsAs_compact _ name

/-- As long as no compaction cuts off a variable, the environments stay alike. -/
theorem Environment.Alike.after (h : environment.Alike other) {history : List Ask}
    (hintact : intact limit environment history = true) :
    ((evaluator limit).after environment history).Alike ((keeper limit).after other history) := by
  induction history generalizing environment other with
  | nil => exact h
  | cons ask later ih =>
      rw [intact, Bool.and_eq_true, Bool.not_eq_true'] at hintact
      exact ih ((alike_answer hintact.1).trans (h.keeper_answer ask).environment) hintact.2

end

/-- Compaction is not seen by scripts up to and including the first call whose compaction cuts off a
variable from the closures that share it.  After any history of calls before that one, in any
environment, a call prints the same and ends in the same way as without compaction, and every name
is read alike after it.  That a call has cut off a variable shows right after it in which variables
share their values, and in nothing else. -/
theorem answer_eq_of_intact {limit : Nat} {environment : Environment} {history : List Ask}
    (h : intact limit environment history = true) (ask : Ask) :
    let answered := (evaluator limit).answer ((evaluator limit).after environment history) ask
    let kept := (keeper limit).answer ((keeper limit).after environment history) ask
    answered.printed = kept.printed ∧ answered.outcome = kept.outcome ∧
      (∀ name, answered.environment.ReadsAs kept.environment name) ∧
      (detachesAfter limit ((evaluator limit).after environment history) ask = false ↔
        ∀ name, answered.environment.shares? name = kept.environment.shares? name) := by
  intro answered kept
  have halike := (Environment.Alike.refl environment).after h
  have hkept : CalledAlike ((keeper limit).answer ((evaluator limit).after environment history) ask)
      kept := halike.keeper_answer ask
  refine ⟨(printed_answer ask).trans hkept.printed_eq, (outcome_answer ask).trans hkept.outcome_eq,
    fun name => (readsAs_answer ask name).trans (hkept.environment.readsAs name), ?_⟩
  constructor
  · intro hcut name
    exact ((alike_answer hcut).trans hkept.environment).shares?_eq name
  · intro hshares
    by_contra hcut
    obtain ⟨name, hanswered, hunseen⟩ := exists_shares?_answer (Bool.not_eq_false _ ▸ hcut)
    rw [hkept.environment.shares?_eq, ← hshares name, hanswered] at hunseen
    cases hunseen

/-- A closure has captured a variable that is hidden later on, and variables are declared anew: no
variable is cut off, and the closure is seen to have its variable still. -/
theorem answer_eq_of_intact_captured :
    let history : List Ask :=
      [.run "let x = 1; let f = || x;", .run "x = 5;", .run "let x = 3; let x = 4;"]
    let answered :=
      (evaluator 0).answer ((evaluator 0).after .empty history) (.evaluate "f.call() + x")
    let kept := (keeper 0).answer ((keeper 0).after .empty history) (.evaluate "f.call() + x")
    answered.outcome.map (Option.map Value.exact) = .ok (some "9") ∧
      answered.outcome = kept.outcome := by
  intro history answered kept
  have hintact : intact 0 .empty history = true := by decide +kernel
  have hvalue : answered.outcome.map (Option.map Value.exact) = .ok (some "9") := by
    decide +kernel
  exact ⟨hvalue, (answer_eq_of_intact hintact (.evaluate "f.call() + x")).2.1⟩

/-- A variable that a closure shares is cut off from it as soon as any other name is declared anew:
the closure does not see what is assigned to the variable after that. -/
theorem answer_ne :
    let history : List Ask :=
      [.run "let x = 1; let f = || x; let y = 0;", .run "let y = 1;", .run "x = 2;"]
    let answered := (evaluator 0).answer ((evaluator 0).after .empty history) (.evaluate "f.call()")
    let kept := (keeper 0).answer ((keeper 0).after .empty history) (.evaluate "f.call()")
    answered.outcome.map (Option.map Value.exact) = .ok (some "1") ∧
      kept.outcome.map (Option.map Value.exact) = .ok (some "2") := by
  decide +kernel

end Script

end Cellbook
