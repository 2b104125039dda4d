import Cellbook.Proofs.Script.Lookups

/-!
# Libraries in which the same is found

A script reaches the functions of its code by name and number of arguments alone.  So it does not
matter in what order they are held, nor whether others are held behind those that are found: from
one code to another in which the same functions are found, all parts of the evaluation come to the
same (`runStatements_congr`).

There is one lemma for each function of the evaluation, and each follows from those for what the
function calls.  The evaluators of nested parts are assumed to agree (`Evaluators.Agree`);
`agree_evaluators` ties the knot by induction on how deeply the parts nest.
-/

namespace Cellbook.Script

open Run

/-- Two codes that differ in nothing but functions that are not found. -/
structure Code.Alike (code other : Code) : Prop where
  function?_eq : code.function? = other.function?
  lambdas_eq : code.lambdas = other.lambdas
  limit_eq : code.limit = other.limit

/-- Two frames that differ in nothing but functions that are not found. -/
structure Frame.Alike (frame other : Frame) : Prop extends frame.code.Alike other.code where
  depth_eq : frame.depth = other.depth

/-- A name stands for a function where one of the name is found for some number of arguments. -/
theorem Code.any_name_iff (code : Code) (name : String) :
    code.functions.any (·.name == name) = true ↔ ∃ arity f, code.function? name arity = some f := by
  rw [List.any_eq_true]
  constructor
  · rintro ⟨f, hf, hname⟩
    refine ⟨f.parameters.length, Option.isSome_iff_exists.mp (List.find?_isSome.mpr ⟨f, hf, ?_⟩)⟩
    simpa using hname
  · rintro ⟨arity, f, hfound⟩
    have hboth := List.find?_some hfound
    exact ⟨f, List.mem_of_find?_eq_some hfound, ((Bool.and_eq_true _ _).mp hboth).1⟩

namespace Frame.Alike

variable {frame other : Frame} (h : frame.Alike other)

include h

/-- As deep as each other, frames stay alike. -/
theorem inside (depth : Nat) :
    Frame.Alike { frame with depth := depth } { other with depth := depth } :=
  ⟨h.toAlike, rfl⟩

theorem namesFunction_eq : frame.namesFunction = other.namesFunction := by
  funext name bound
  rw [Frame.namesFunction, Frame.namesFunction]
  congr 1
  rw [Bool.eq_iff_iff, Code.any_name_iff, Code.any_name_iff, h.function?_eq]

theorem tick_eq : tick frame = tick other := by
  funext position
  rw [tick, tick, h.limit_eq]

end Frame.Alike

/-- A call by a name that is no keyword goes by the name. -/
theorem evaluateCall_of_notMem {parts : Evaluators} {frame : Frame} {name : String}
    (hname : name ∉ callableKeywords) (arguments : List Expr) (position : Position) :
    evaluateCall parts frame name arguments position =
      evaluateArguments parts frame (callNamed parts frame name · position) arguments := by
  have hspecial {word : String} (hword : word ∈ callableKeywords) : name ≠ word := by
    rintro rfl
    exact hname hword
  unfold evaluateCall
  split
  case h_8 => rfl
  all_goals exact absurd rfl (hspecial (by decide))

/-- Evaluators for the parts of a construct that come to the same in frames that are alike. -/
structure Evaluators.Agree (parts : Evaluators) : Prop where
  expression : ∀ {frame other : Frame}, frame.Alike other →
    parts.expression frame = parts.expression other
  statement : ∀ {frame other : Frame}, frame.Alike other →
    parts.statement frame = parts.statement other

section

variable {parts : Evaluators} {frame other : Frame} (h : parts.Agree) (hframe : frame.Alike other)

include h hframe

/-! ## Calls -/

theorem sequence_congr : sequence parts frame = sequence parts other := by
  funext body
  fun_induction sequence parts frame body with
  | case1 => rfl
  | case2 statement => rw [sequence, h.statement hframe]
  | case3 statement rest hrest ih => rw [sequence, h.statement hframe, ih]; exact hrest

theorem enter_congr : enter parts frame = enter parts other := by
  funext name parameters body receiver arguments position
  simp only [enter, hframe.tick_eq, sequence_congr h (hframe.inside _), hframe.depth_eq]

theorem callFunction_congr : callFunction parts frame = callFunction parts other := by
  funext f receiver arguments position
  rw [callFunction, callFunction, enter_congr h hframe]

theorem callLambda_congr : callLambda parts frame = callLambda parts other := by
  funext number receiver arguments position
  rw [callLambda, callLambda, enter_congr h hframe, hframe.lambdas_eq]

theorem callApproach?_congr : callApproach? parts frame = callApproach? parts other := by
  funext position name bound approach
  rw [callApproach?, callApproach?, callFunction_congr h hframe, hframe.function?_eq]

theorem callFor_congr : callFor parts frame = callFor parts other := by
  funext position callee bound approaches
  simp only [callFor, callLambda_congr h hframe, callApproach?_congr h (hframe.inside _),
    hframe.lambdas_eq, hframe.depth_eq]

theorem callNative_congr : callNative parts frame = callNative parts other := by
  funext constant name arguments position
  simp only [callNative, hframe.tick_eq, callFor_congr h (hframe.inside _), hframe.depth_eq]

theorem callNamed_congr : callNamed parts frame = callNamed parts other := by
  funext name arguments position
  rw [callNamed, callNamed, callFunction_congr h hframe, callNative_congr h hframe,
    hframe.function?_eq]

theorem callValue_congr : callValue parts frame = callValue parts other := by
  funext callee bound receiver arguments position
  simp only [callValue, callLambda_congr h hframe, callNamed_congr h hframe,
    callFunction_congr h hframe, callNative_congr h hframe, hframe.function?_eq]

theorem callMethod_congr : callMethod parts frame = callMethod parts other := by
  funext receiver name arguments place position
  simp only [callMethod, callValue_congr h hframe, callFunction_congr h hframe,
    callNative_congr h hframe, hframe.function?_eq]

/-! ## Chains -/

theorem takeSteps_congr : takeSteps parts frame = takeSteps parts other := by
  funext steps
  simp only [takeSteps, h.expression hframe]

theorem walk_congr : walk parts frame = walk parts other := by
  funext fixed assigned value taken
  induction taken generalizing fixed assigned value with
  | nil => rfl
  | cons step rest ih =>
      unfold walk
      -- What comes after the test for a base that is `()`, on either side.
      extract_lets next next'
      have hnext : next () = next' () := by
        cases step with
        | property name _ position =>
            dsimp only [next, next']
            split
            · rfl
            · rw [ih]
            · split
              · rfl
              · rfl
              · rw [ih]
              · rfl
        | index index _ position bracket =>
            dsimp only [next, next']
            split
            · rfl
            · split
              · rfl
              · rfl
              · rfl
              · rfl
              · rw [ih]
        | method name arguments _ place position =>
            simp only [next, next', callMethod_congr h hframe, ih]
      rw [hnext]

theorem evaluateChain_congr : evaluateChain parts frame = evaluateChain parts other := by
  funext base steps assigned
  simp only [evaluateChain, takeSteps_congr h hframe, walk_congr h hframe, h.expression hframe,
    hframe.tick_eq, hframe.namesFunction_eq]

/-! ## Expressions -/

theorem evaluateArguments_congr :
    evaluateArguments parts frame = evaluateArguments parts other := by
  funext invoke arguments
  simp only [evaluateArguments, h.expression hframe, hframe.namesFunction_eq]

theorem evaluateCallee_congr : evaluateCallee parts frame = evaluateCallee parts other := by
  funext e
  rw [evaluateCallee, evaluateCallee, h.expression hframe]

theorem evaluateText_congr : evaluateText parts frame = evaluateText parts other := by
  funext e
  rw [evaluateText, evaluateText, h.expression hframe]

theorem evaluateCall_congr : evaluateCall parts frame = evaluateCall parts other := by
  funext function arguments position
  simp only [evaluateCall, evaluateCallee_congr h hframe, evaluateText_congr h hframe,
    evaluateArguments_congr h hframe, callNamed_congr h hframe, callValue_congr h hframe,
    h.expression hframe, hframe.function?_eq]

theorem evaluateExpression_congr :
    evaluateExpression parts frame = evaluateExpression parts other := by
  funext e
  simp only [evaluateExpression, hframe.tick_eq, hframe.namesFunction_eq, h.expression hframe,
    h.statement hframe, evaluateCall_congr h hframe, evaluateChain_congr h hframe]

/-! ## Statements -/

theorem evaluateBlock_congr : evaluateBlock parts frame = evaluateBlock parts other := by
  funext body
  rw [evaluateBlock, evaluateBlock, sequence_congr h hframe]

theorem takeTurn_congr : takeTurn parts frame = takeTurn parts other := by
  funext body
  rw [takeTurn, takeTurn, evaluateBlock_congr h hframe]

theorem evaluateCondition_congr :
    evaluateCondition parts frame = evaluateCondition parts other := by
  funext e
  rw [evaluateCondition, evaluateCondition, h.expression hframe]

theorem takeTurns_congr : takeTurns parts frame = takeTurns parts other := by
  funext before after body position turns
  induction turns with
  | zero => rfl
  | succ turns ih => simp only [takeTurns, hframe.tick_eq, takeTurn_congr h hframe, ih]

theorem takeEach_congr : takeEach parts frame = takeEach parts other := by
  funext name counter body position index values
  induction values generalizing index with
  | nil => rfl
  | cons value rest ih => simp only [takeEach, hframe.tick_eq, takeTurn_congr h hframe, ih]

theorem takeRange_congr : takeRange parts frame = takeRange parts other := by
  funext name counter body position low index length
  induction length generalizing index with
  | zero => rfl
  | succ length ih => simp only [takeRange, hframe.tick_eq, takeTurn_congr h hframe, ih]

theorem evaluateFor_congr : evaluateFor parts frame = evaluateFor parts other := by
  funext name counter items body position
  simp only [evaluateFor, h.expression hframe, takeEach_congr h hframe, takeRange_congr h hframe]

theorem firstAction_congr : firstAction parts frame = firstAction parts other := by
  funext cases
  fun_induction firstAction parts frame cases with
  | case1 => rfl
  | case2 patterns action rest => rfl
  | case3 patterns guard action rest ih =>
      rw [firstAction, evaluateCondition_congr h hframe, ih]

theorem evaluateSwitch_congr : evaluateSwitch parts frame = evaluateSwitch parts other := by
  funext subject cases otherwise
  rw [evaluateSwitch, evaluateSwitch, h.expression hframe, firstAction_congr h hframe,
    evaluateBlock_congr h hframe]

theorem evaluateDeclaration_congr :
    evaluateDeclaration parts frame = evaluateDeclaration parts other := by
  funext name constant replaces value
  cases value with
  | none => rfl
  | some e => simp only [evaluateDeclaration, h.expression hframe]

theorem evaluateAssignment_congr :
    evaluateAssignment parts frame = evaluateAssignment parts other := by
  funext target operator value position
  simp only [evaluateAssignment, h.expression hframe, hframe.tick_eq, hframe.namesFunction_eq,
    evaluateChain_congr h hframe]

theorem evaluateAttempt_congr : evaluateAttempt parts frame = evaluateAttempt parts other := by
  funext body name handler
  rw [evaluateAttempt, evaluateAttempt, evaluateBlock_congr h hframe]

theorem evaluateOptional_congr : evaluateOptional parts frame = evaluateOptional parts other := by
  funext e
  cases e with
  | none => rfl
  | some e => rw [evaluateOptional, evaluateOptional, h.expression hframe]

theorem evaluateStatement_congr :
    evaluateStatement parts frame = evaluateStatement parts other := by
  funext statement
  simp only [evaluateStatement, hframe.tick_eq, h.expression hframe,
    evaluateDeclaration_congr h hframe, evaluateAssignment_congr h hframe,
    evaluateBlock_congr h hframe, evaluateCondition_congr h hframe, evaluateSwitch_congr h hframe,
    takeTurns_congr h hframe, evaluateFor_congr h hframe, evaluateOptional_congr h hframe,
    evaluateAttempt_congr h hframe]

end

/-- However deeply the parts of a script nest, they reach functions by name and number of arguments
alone. -/
theorem agree_evaluators (fuel : Nat) : (evaluators fuel).Agree := by
  induction fuel with
  | zero => exact ⟨fun _ => rfl, fun _ => rfl⟩
  | succ fuel ih => exact ⟨evaluateExpression_congr ih, evaluateStatement_congr ih⟩

/-- A script comes to the same with codes that differ in nothing but functions that are not found. -/
theorem runStatements_congr {code other : Code} (h : code.Alike other) :
    runStatements code = runStatements other := by
  funext fuel body
  have hframe : Frame.Alike ⟨code, 0⟩ ⟨other, 0⟩ := ⟨h, rfl⟩
  rw [runStatements, runStatements, sequence_congr (agree_evaluators fuel) hframe]

end Cellbook.Script
