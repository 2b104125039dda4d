import Cellbook.Proofs.Script.Libraries
import Cellbook.Proofs.Script.Transparency

/-!
# Definitions that last

What a script defines is there for all that is asked after it, until the same name is defined again
for as many parameters.  An environment keeps one function of each name and number of parameters; it
could as well keep every definition ever made, in order, and call the latest (`chronicle`), or keep
a program into which each new one is merged, its functions alone before its statements run, and then
all of it (`merging`).  Whatever is asked, one call after another, all three come to the same
(`Keeping.Serves.answer`), for a call finds the same function in each of them and nothing is run but
the statements of the program that is asked for.
-/

namespace Cellbook.Script

open Environment (define)

/-! ## What is found in a library -/

/-- The function of a name with a number of parameters, the first where there are several. -/
def defined? (library : List Function) (name : String) (arity : Nat) : Option Function :=
  library.find? fun f => f.name == name && f.parameters.length == arity

/-- The latest function of a name with a number of parameters, of functions in the order in which
they were defined. -/
def latest? (made : List Function) : String → Nat → Option Function := defined? made.reverse

theorem defined?_append (library more : List Function) (name : String) (arity : Nat) :
    defined? (library ++ more) name arity =
      (defined? library name arity).or (defined? more name arity) :=
  List.find?_append

/-- What is found first is found before whatever is found alike. -/
theorem defined?_append_congr (library : List Function) {more other : List Function}
    (h : defined? more = defined? other) :
    defined? (library ++ more) = defined? (library ++ other) := by
  funext name arity
  rw [defined?_append, defined?_append, h]

/-- A function that is added is found in the place of those that it stands for, and they could as
well be there still. -/
theorem defined?_define (library : List Function) (f : Function) :
    defined? (define library f) = defined? (f :: library) := by
  funext name arity
  rw [defined?, defined?, define, List.find?_cons, List.find?_cons]
  split
  · rfl
  · next hf =>
      rw [List.find?_filter]
      congr 1
      funext g
      rw [Bool.eq_iff_iff]
      simp only [Bool.and_eq_true, Bool.not_eq_true', beq_iff_eq, Bool.and_eq_false_iff,
        beq_eq_false_iff_ne] at hf ⊢
      grind

/-- Functions that are added in order are found as if none of them had taken another's place. -/
theorem defined?_foldl_define (functions library : List Function) :
    defined? (functions.foldl define library) = defined? (functions.reverse ++ library) := by
  induction functions generalizing library with
  | nil => rfl
  | cons f functions ih =>
      rw [List.foldl_cons, ih, defined?_append_congr _ (defined?_define library f),
        List.reverse_cons, List.append_assoc, List.singleton_append]

/-- Functions that are added once more are found as if they had been added once. -/
theorem defined?_foldl_define_twice (functions library : List Function) :
    defined? (functions.foldl define (functions.foldl define library)) =
      defined? (functions.foldl define library) := by
  rw [defined?_foldl_define, defined?_append_congr _ (defined?_foldl_define functions library),
    defined?_foldl_define]
  funext name arity
  rw [defined?_append, defined?_append]
  cases defined? functions.reverse name arity <;> rfl

/-! ## Ways to keep definitions -/

/-- A program as it is merged with others: its functions and its statements. -/
structure Ast where
  functions : List Function
  body : List Stmt

/-- Merges a program into another: its statements come after those of the other, and its functions
take the place of those that have the same name and number of parameters. -/
def Ast.merge (ast other : Ast) : Ast :=
  ⟨other.functions.foldl define ast.functions, ast.body ++ other.body⟩

/-- A way to keep definitions from one program to the next. -/
structure Keeping (κ : Type) where
  /-- Keeps the functions of a program that is about to run. -/
  keep : κ → Program → κ
  /-- What is run of such a program. -/
  merged : κ → Program → Ast
  /-- What is run of an expression. -/
  alone : κ → Program → Ast

/-- Keeps a program without statements, into which the functions of each new one are merged and then
all of it. -/
def merging : Keeping Ast where
  keep stored program := stored.merge ⟨program.functions, []⟩
  merged stored program := stored.merge ⟨program.functions, program.body⟩
  alone stored program := stored.merge ⟨[], program.body⟩

/-- Keeps all functions ever defined, in order, and calls the latest of them. -/
def chronicle : Keeping (List Function) where
  keep made program := made ++ program.functions
  merged made program := ⟨made.reverse, program.body⟩
  alone made program := ⟨made.reverse, program.body⟩

namespace Keeping

variable {κ : Type} (keeping : Keeping κ) (limit : Nat)

/-- Runs a source text as statements, with what is kept besides the environment in the place of its
library. -/
def runSource (state : Environment × κ) (source : String) : Called (Environment × κ) Unit :=
  let (environment, kept) := state
  match environment.read parseScript source with
  | .error fault => ⟨state, [], .error (.parse fault.message)⟩
  | .ok program =>
    let kept := keeping.keep kept program
    let ast := keeping.merged kept program
    let ran := environment.execute limit ast.functions { program with body := ast.body }
    ⟨(ran.environment.compact, kept), ran.printed,
      (ran.outcome.map fun _ => ()).mapError fun fault => .execution fault.message⟩

/-- Evaluates a source text as one expression, with what is kept besides the environment. -/
def evaluateSource (state : Environment × κ) (source : String) :
    Called (Environment × κ) (Option Value) :=
  let (environment, kept) := state
  match (environment.read parseExpression source).toOption with
  | none => ⟨state, [], .ok none⟩
  | some program =>
    let ast := keeping.alone kept program
    let ran := environment.execute limit ast.functions { program with body := ast.body }
    ⟨(ran.environment, kept), ran.printed,
      (ran.outcome.map some).mapError fun fault => .execution fault.message⟩

/-- The script language with definitions kept in this way, first those of `initial`. -/
def evaluator (initial : κ) : Evaluator (Environment × κ) Value :=
  ⟨(.empty, initial), keeping.runSource limit, keeping.evaluateSource limit⟩

end Keeping

/-! ## Environments that differ in how definitions are kept -/

/-- Two environments that differ in nothing but their libraries. -/
structure Environment.Besides (environment other : Environment) : Prop where
  scope_eq : environment.scope = other.scope
  cells_eq : environment.cells = other.cells
  lambdas_eq : environment.lambdas = other.lambdas

namespace Environment

variable {environment other : Environment}

/-- Programs are read without a look at the library. -/
theorem Besides.read_eq (h : environment.Besides other)
    (reader : Nat → String → Except SyntaxFault Program) :
    environment.read reader = other.read reader := by
  rcases environment with ⟨scope, library, cells, lambdas⟩
  rcases other with ⟨scope', library', cells', lambdas'⟩
  obtain ⟨rfl, rfl, rfl⟩ := h
  rfl

theorem Besides.compact (h : environment.Besides other) :
    environment.compact.Besides other.compact := by
  rcases environment with ⟨scope, library, cells, lambdas⟩
  rcases other with ⟨scope', library', cells', lambdas'⟩
  obtain ⟨rfl, rfl, rfl⟩ := h
  rw [Environment.compact, Environment.compact]
  dsimp only
  split
  · exact ⟨rfl, rfl, rfl⟩
  · exact ⟨rfl, rfl, rfl⟩

/-- Statements come to the same with libraries in which the same is found. -/
theorem Besides.execute (h : environment.Besides other) (limit : Nat)
    {library library' : List Function} (hlibrary : defined? library = defined? library')
    (program : Program) :
    let ran := environment.execute limit library program
    let ran' := other.execute limit library' program
    ran.environment.Besides ran'.environment ∧ ran.printed = ran'.printed ∧
      ran.outcome = ran'.outcome := by
  have hcode : Code.Alike ⟨library, other.lambdas ++ program.lambdas, limit⟩
      ⟨library', other.lambdas ++ program.lambdas, limit⟩ := ⟨hlibrary, rfl, rfl⟩
  rw [Environment.execute, Environment.execute, h.scope_eq, h.cells_eq, h.lambdas_eq,
    runStatements_congr hcode]
  generalize (runStatements _ _ _).run _ = result
  rcases result with ⟨value, m⟩ | ⟨i, m⟩
  · exact ⟨⟨rfl, rfl, rfl⟩, rfl, rfl⟩
  · cases i <;> exact ⟨⟨rfl, rfl, rfl⟩, rfl, rfl⟩

/-- Statements define nothing. -/
theorem library_execute (limit : Nat) (environment : Environment) (library : List Function)
    (program : Program) :
    (environment.execute limit library program).environment.library = environment.library := by
  rw [Environment.execute]
  generalize (runStatements _ _ _).run _ = result
  rcases result with ⟨value, m⟩ | ⟨i, m⟩
  · rfl
  · cases i <;> rfl

end Environment

namespace Keeping

variable {κ : Type} {keeping : Keeping κ} {serves : List Function → κ → Prop}

/-- What is kept serves as a library does: it still does once a program has been kept in both, and
then the statements of the program are run, and no others, with the same functions to be found. -/
structure Serves (keeping : Keeping κ) (serves : List Function → κ → Prop) : Prop where
  keep : ∀ {library : List Function} {kept : κ}, serves library kept → ∀ program : Program,
    serves (program.functions.foldl define library) (keeping.keep kept program)
  body_merged : ∀ {library : List Function} {kept : κ}, serves library kept →
    ∀ program : Program,
      (keeping.merged (keeping.keep kept program) program).body = program.body
  defined?_merged : ∀ {library : List Function} {kept : κ}, serves library kept →
    ∀ program : Program, defined? (program.functions.foldl define library) =
      defined? (keeping.merged (keeping.keep kept program) program).functions
  body_alone : ∀ {library : List Function} {kept : κ}, serves library kept →
    ∀ program : Program, (keeping.alone kept program).body = program.body
  defined?_alone : ∀ {library : List Function} {kept : κ}, serves library kept →
    ∀ program : Program, defined? library = defined? (keeping.alone kept program).functions

/-- Two calls have come to the same, with a library and with what serves as one. -/
structure CalledAlike (serves : List Function → κ → Prop) {α : Type}
    (called : Called Environment α) (other : Called (Environment × κ) α) : Prop where
  environment : called.environment.Besides other.environment.1
  serves : serves called.environment.library other.environment.2
  printed_eq : called.printed = other.printed
  outcome_eq : called.outcome = other.outcome

theorem CalledAlike.withoutValue {called : Called Environment Unit}
    {other : Called (Environment × κ) Unit} (h : CalledAlike serves called other) :
    CalledAlike serves (called.withoutValue (ν := Value)) other.withoutValue where
  environment := by simpa using h.environment
  serves := by simpa using h.serves
  printed_eq := by simpa using h.printed_eq
  outcome_eq := by simp [h.outcome_eq]

namespace Serves

variable (limit : Nat) {environment other : Environment} {kept : κ}

theorem runSource (h : keeping.Serves serves) (hbesides : environment.Besides other)
    (hserves : serves environment.library kept) (source : String) :
    CalledAlike serves (Script.runSource limit environment source)
      (keeping.runSource limit (other, kept) source) := by
  rw [Script.runSource, Keeping.runSource, Environment.run, Environment.runLoose,
    hbesides.read_eq]
  dsimp only
  cases other.read parseScript source with
  | error fault => exact ⟨hbesides, hserves, rfl, rfl⟩
  | ok program =>
      have hstart : Environment.Besides
          { environment with library := program.functions.foldl define environment.library }
          other := ⟨hbesides.scope_eq, hbesides.cells_eq, hbesides.lambdas_eq⟩
      obtain ⟨hran, hprinted, houtcome⟩ :=
        hstart.execute limit (h.defined?_merged hserves program) program
      dsimp only [Except.map]
      rw [h.body_merged hserves]
      refine ⟨hran.compact, ?_, hprinted, ?_⟩
      · rw [Environment.library_compact, Environment.library_execute]
        exact h.keep hserves program
      · rw [houtcome]

theorem evaluateSource (h : keeping.Serves serves) (hbesides : environment.Besides other)
    (hserves : serves environment.library kept) (source : String) :
    CalledAlike serves (Script.evaluateSource limit environment source)
      (keeping.evaluateSource limit (other, kept) source) := by
  unfold Script.evaluateSource Keeping.evaluateSource
  rw [Environment.evaluate?, hbesides.read_eq]
  dsimp only
  cases (other.read parseExpression source).toOption with
  | none => exact ⟨hbesides, hserves, rfl, rfl⟩
  | some program =>
      obtain ⟨hran, hprinted, houtcome⟩ :=
        hbesides.execute limit (h.defined?_alone hserves program) program
      dsimp only [Option.map]
      rw [h.body_alone hserves]
      refine ⟨hran, ?_, hprinted, ?_⟩
      · rw [Environment.library_execute]
        exact hserves
      · rw [houtcome]

/-- Whatever is asked, it comes to the same. -/
theorem answer (h : keeping.Serves serves) (hbesides : environment.Besides other)
    (hserves : serves environment.library kept) (initial : κ) (ask : Ask) :
    CalledAlike serves ((Script.evaluator limit).answer environment ask)
      ((keeping.evaluator limit initial).answer (other, kept) ask) := by
  cases ask with
  | run source => exact (h.runSource limit hbesides hserves source).withoutValue
  | evaluate source => exact h.evaluateSource limit hbesides hserves source

/-- Whatever is asked, one call after another, what is kept serves as the library does. -/
theorem after (h : keeping.Serves serves) (hbesides : environment.Besides other)
    (hserves : serves environment.library kept) (initial : κ) (history : List Ask) :
    let now := (Script.evaluator limit).after environment history
    let now' := (keeping.evaluator limit initial).after (other, kept) history
    now.Besides now'.1 ∧ serves now.library now'.2 := by
  induction history generalizing environment other kept with
  | nil => exact ⟨hbesides, hserves⟩
  | cons ask later ih =>
      have hanswer := h.answer limit hbesides hserves initial ask
      exact ih hanswer.environment hanswer.serves

end Serves

end Keeping

/-- A program without statements into which others are merged serves as the library of its
functions. -/
theorem serves_merging : merging.Serves fun library stored => stored = ⟨library, []⟩ where
  keep := by
    rintro library _ rfl program
    rfl
  body_merged := by
    rintro library _ rfl program
    rfl
  defined?_merged := by
    rintro library _ rfl program
    exact (defined?_foldl_define_twice program.functions library).symm
  body_alone := by
    rintro library _ rfl program
    rfl
  defined?_alone := by
    rintro library _ rfl program
    rfl

/-- All functions ever defined serve as a library in which the latest of them are found. -/
theorem serves_chronicle : chronicle.Serves fun library made => defined? library = latest? made :=
  have hkeep {library made : List Function} (h : defined? library = latest? made)
      (functions : List Function) :
      defined? (functions.foldl define library) = latest? (made ++ functions) := by
    rw [defined?_foldl_define, latest?, List.reverse_append]
    exact defined?_append_congr functions.reverse h
  { keep := fun h program => hkeep h program.functions
    body_merged := fun _ _ => rfl
    defined?_merged := fun h program => hkeep h program.functions
    body_alone := fun _ _ => rfl
    defined?_alone := fun h _ => h }

/-! ## What is defined by calls, one after another -/

/-- The functions defined by what is asked for: those of a program that can be read, however its
statements end. -/
def definedBy (environment : Environment) : Ask → List Function
  | .run source => (environment.read parseScript source).toOption.elim [] Program.functions
  | .evaluate _ => []

/-- The functions defined by calls, one after another, in order. -/
def definitions (limit : Nat) (environment : Environment) : List Ask → List Function
  | [] => []
  | ask :: later =>
    definedBy environment ask ++
      definitions limit ((evaluator limit).answer environment ask).environment later

section

variable (limit : Nat) (environment : Environment)

/-- What is asked for adds what it defines to the library and changes nothing else in it. -/
theorem library_answer (ask : Ask) :
    ((evaluator limit).answer environment ask).environment.library =
      (definedBy environment ask).foldl define environment.library := by
  cases ask with
  | run source =>
      simp only [Evaluator.answer, evaluator, Called.environment_withoutValue, definedBy]
      unfold runSource Environment.run Environment.runLoose
      cases environment.read parseScript source with
      | error fault => rfl
      | ok program =>
          dsimp only [Except.map]
          rw [Environment.library_compact, Environment.library_execute]
          rfl
  | evaluate source =>
      simp only [Evaluator.answer, evaluator, definedBy]
      unfold evaluateSource
      rw [Environment.evaluate?]
      cases (environment.read parseExpression source).toOption with
      | none => rfl
      | some program => exact Environment.library_execute ..

theorem library_after (history : List Ask) :
    ((evaluator limit).after environment history).library =
      (definitions limit environment history).foldl define environment.library := by
  induction history generalizing environment with
  | nil => rfl
  | cons ask later ih =>
      rw [definitions, List.foldl_append, ← library_answer]
      exact ih _

/-- All that is defined is kept, in order. -/
theorem chronicle_answer {environment other : Environment} (h : environment.Besides other)
    (initial made : List Function) (ask : Ask) :
    ((chronicle.evaluator limit initial).answer (other, made) ask).environment.2 =
      made ++ definedBy environment ask := by
  cases ask with
  | run source =>
      simp only [Evaluator.answer, Keeping.evaluator, Called.environment_withoutValue, definedBy,
        h.read_eq]
      unfold Keeping.runSource
      dsimp only
      cases other.read parseScript source with
      | error fault => exact (List.append_nil made).symm
      | ok program => rfl
  | evaluate source =>
      simp only [Evaluator.answer, Keeping.evaluator, definedBy, List.append_nil]
      unfold Keeping.evaluateSource
      dsimp only
      cases (other.read parseExpression source).toOption <;> rfl

theorem chronicle_after {environment other : Environment} (h : environment.Besides other)
    {made : List Function} (hmade : defined? environment.library = latest? made)
    (initial : List Function) (history : List Ask) :
    ((chronicle.evaluator limit initial).after (other, made) history).2 =
      made ++ definitions limit environment history := by
  induction history generalizing environment other made with
  | nil => exact (List.append_nil made).symm
  | cons ask later ih =>
      have hanswer := serves_chronicle.answer limit h hmade initial ask
      rw [definitions, ← List.append_assoc, ← chronicle_answer limit h initial]
      exact ih hanswer.environment hanswer.serves

end

/-! ## Calls -/

/-- What follows a list of results may rely on there being one for each item. -/
theorem mapM_bind_congr {α β γ : Type} {f : α → Run β} {items : List α} {next next' : List β → Run γ}
    (h : ∀ results, results.length = items.length → next results = next' results) :
    items.mapM f >>= next = items.mapM f >>= next' := by
  induction items generalizing next next' with
  | nil =>
      rw [List.mapM_nil, pure_bind, pure_bind]
      exact h [] rfl
  | cons a items ih =>
      simp only [List.mapM_cons, bind_assoc, pure_bind]
      congr 1
      funext b
      refine ih fun results hresults => h (b :: results) ?_
      rw [List.length_cons, List.length_cons, hresults]

section

variable {parts : Evaluators} {frame : Frame}

/-- A call is made with as many arguments as are written. -/
theorem evaluateArguments_congr_of_length {invoke invoke' : List Value → Run Ended}
    {arguments : List Expr}
    (h : ∀ values, values.length = arguments.length → invoke values = invoke' values) :
    evaluateArguments parts frame invoke arguments =
      evaluateArguments parts frame invoke' arguments := by
  unfold evaluateArguments
  split
  · refine mapM_bind_congr fun values hvalues => ?_
    have hcall (first : Value) : invoke (first :: values) = invoke' (first :: values) :=
      h _ (congrArg (· + 1) hvalues)
    simp only [hcall]
  · refine mapM_bind_congr fun values hvalues => ?_
    rw [h values hvalues]

/-- A call by name of a function that the script has defined runs that function, on as many values
as there are arguments. -/
theorem evaluateExpression_call {name : String} {arguments : List Expr} {f : Function}
    (hname : name ∉ callableKeywords)
    (hfound : frame.code.function? name arguments.length = some f) (position : Position) :
    evaluateExpression parts frame (.call name arguments position) = (do
      Run.tick frame position
      evaluateArguments parts frame (callFunction parts frame f none · position) arguments) := by
  have hnamed (values : List Value) (hlength : values.length = arguments.length) :
      callNamed parts frame name values position =
        callFunction parts frame f none values position := by
    rw [callNamed, hlength, hfound]
  rw [evaluateExpression, evaluateCall_of_notMem hname,
    evaluateArguments_congr_of_length hnamed]
  rfl

end

/-- After calls in any environment, one after another, a call by name finds the latest definition
that there has been of that name for as many parameters: in the programs that could be read, the one
that is running among them, however their statements ended.  What is asked for then comes to the
same as where all programs have been merged into one, which is left with the library and without a
statement; and the same as where all definitions have been kept, which are the definitions there
were and those made since. -/
theorem answer_latest (limit : Nat) (start : Environment) (history : List Ask) :
    let now := (evaluator limit).after start history
    let made := start.library.reverse ++ definitions limit start history
    (now.library = (definitions limit start history).foldl define start.library ∧
      ∀ name arity, defined? now.library name arity = latest? made name arity) ∧
    (let merger := merging.evaluator limit ⟨start.library, []⟩
      let merged := merger.after (start, ⟨start.library, []⟩) history
      merged.2 = ⟨now.library, []⟩ ∧
        ∀ ask, Keeping.CalledAlike (fun library stored => stored = ⟨library, []⟩)
          ((evaluator limit).answer now ask) (merger.answer merged ask)) ∧
    (let chronicler := chronicle.evaluator limit start.library.reverse
      let chronicled := chronicler.after (start, start.library.reverse) history
      chronicled.2 = made ∧
        ∀ ask, Keeping.CalledAlike (fun library made => defined? library = latest? made)
          ((evaluator limit).answer now ask) (chronicler.answer chronicled ask)) ∧
    ∀ (functions : List Function) (frame : Frame),
      frame.code.functions = functions.foldl define now.library →
        ∀ (parts : Evaluators) {name : String} {arguments : List Expr} {f : Function},
          name ∉ callableKeywords →
          latest? (made ++ functions) name arguments.length = some f →
          ∀ position, evaluateExpression parts frame (.call name arguments position) = (do
            Run.tick frame position
            evaluateArguments parts frame (callFunction parts frame f none · position)
              arguments) := by
  intro now made
  have hsame : start.Besides start := ⟨rfl, rfl, rfl⟩
  have hstart : defined? start.library = latest? start.library.reverse := by
    rw [latest?, List.reverse_reverse]
  have hlibrary : now.library = (definitions limit start history).foldl define start.library :=
    library_after limit start history
  have hlatest : defined? now.library = latest? made := by
    rw [hlibrary, defined?_foldl_define, latest?, List.reverse_append, List.reverse_reverse]
  refine ⟨⟨hlibrary, fun name arity => by rw [hlatest]⟩, ?_, ?_, ?_⟩
  · intro merger merged
    obtain ⟨hbesides, hstored⟩ := serves_merging.after limit hsame rfl ⟨start.library, []⟩ history
    exact ⟨hstored, serves_merging.answer limit hbesides hstored _⟩
  · intro chronicler chronicled
    obtain ⟨hbesides, hserves⟩ :=
      serves_chronicle.after limit hsame hstart start.library.reverse history
    exact ⟨chronicle_after limit hsame hstart _ history,
      serves_chronicle.answer limit hbesides hserves _⟩
  · intro functions frame hframe parts name arguments f hname hf
    have hfound : frame.code.function? name arguments.length = some f := by
      rw [← hf, latest?, List.reverse_append, ← defined?_append_congr functions.reverse hlatest,
        ← defined?_foldl_define, ← hframe]
      rfl
    exact evaluateExpression_call hname hfound

/-- A function is defined again by a run that then fails, and a third definition of it cannot be
read: the second is the one that a call runs, and another function is there as it was. -/
theorem answer_latest_redefined :
    let history : List Ask :=
      [.run "fn f(n) \x7b n \x7d fn g() \x7b 7 \x7d", .run "fn f(n) \x7b n * 2 \x7d throw 0;",
        .run "fn f(n) \x7b", .evaluate "f(1)"]
    let now := (evaluator 0).after .empty history
    let made := definitions 0 .empty history
    let frame : Frame := ⟨⟨now.library, now.lambdas, 0⟩, 0⟩
    made.map Function.name = ["f", "g", "f"] ∧
      (∃ f, latest? made "f" 1 = some f ∧
        evaluateExpression (evaluators 9) frame (.call "f" [default] .start) = (do
          Run.tick frame .start
          evaluateArguments (evaluators 9) frame
            (callFunction (evaluators 9) frame f none · .start) [default])) ∧
      ((evaluator 0).answer now (.evaluate "f(21) + g()")).outcome.map (Option.map Value.exact) =
        .ok (some "49") := by
  intro history now made frame
  obtain ⟨-, -, -, hcall⟩ := answer_latest 0 .empty history
  have hruns : made.map Function.name = ["f", "g", "f"] ∧ (latest? made "f" 1).isSome ∧
      ((evaluator 0).answer now (.evaluate "f(21) + g()")).outcome.map (Option.map Value.exact) =
        .ok (some "49") := by
    decide +kernel
  obtain ⟨hnames, hsome, hvalue⟩ := hruns
  obtain ⟨f, hf⟩ := Option.isSome_iff_exists.mp hsome
  have hframe : frame.code.functions = [].foldl define now.library := by
    rw [List.foldl_nil]
  have hmade : Environment.empty.library.reverse ++ made ++ [] = made := by
    rw [List.append_nil]
    exact List.nil_append made
  have hlatest : latest? (Environment.empty.library.reverse ++ made ++ []) "f"
      [(default : Expr)].length = some f := by
    rw [hmade]
    exact hf
  exact ⟨hnames, ⟨f, hf, hcall [] frame hframe (evaluators 9) (by decide) hlatest .start⟩, hvalue⟩

end Cellbook.Script
