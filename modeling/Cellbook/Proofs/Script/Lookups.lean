import Cellbook.Proofs.Script.Hidden

/-!
# Evaluation by name

A script reaches its variables by name alone, so no part of its evaluation tells machines apart that
differ in hidden variables (`respects_runStatements`).  There is one lemma for each function of the
evaluation, and each follows from those for what the function calls.  The evaluators of nested parts
are assumed to respect this (`Evaluators.Respect`); `respect_evaluators` ties the knot by induction
on how deeply the parts nest.
-/

namespace Cellbook.Script

open Run

/-- What refuses before it goes on respects what it goes on with. -/
theorem respects_unless {α : Type} (refused : Prop) [Decidable refused] (i : Interrupt)
    {next : Run α} (h : next.Respects) :
    Run.Respects (do
      if refused then throw i
      next) := by
  dsimp only
  split
  · exact .bind (.throw i) fun _ => h
  · exact h

/-- A variable is given a value, if it is there. -/
theorem respects_assignIfFound {α : Type} (name : String) (value : Value) {next : Run α}
    (h : next.Respects) :
    Run.Respects (do
      if let some binding ← find? name then assign binding value
      next) := by
  refine .bind (.find? name) fun found => ?_
  cases found with
  | none => exact h
  | some binding => exact .bind (.assign binding value) fun _ => h

/-- Evaluators for the parts of a construct that do not tell machines apart that are alike. -/
structure Evaluators.Respect (parts : Evaluators) : Prop where
  expression : ∀ frame e, (parts.expression frame e).Respects
  statement : ∀ frame s, (parts.statement frame s).Respects

section

variable {parts : Evaluators} {frame : Frame} {position : Position}

/-! ## Calls -/

theorem respects_sequence (h : parts.Respect) (body : List Stmt) :
    (sequence parts frame body).Respects := by
  fun_induction sequence parts frame body with
  | case1 => exact .pure Value.unit
  | case2 statement => exact h.statement frame statement
  | case3 statement rest _ ih => exact .bind (h.statement frame statement) fun _ => ih

theorem respects_enter (h : parts.Respect) (name : Option String) (parameters : List String)
    (body : List Stmt) (receiver : Option Receiver) (arguments : List Value)
    (position : Position) :
    (enter parts frame name parameters body receiver arguments position).Respects := by
  refine .ending (.bind (.tick ..) fun _ => respects_unless _ _ ?_)
  refine .bind (.mapM (fun (_, _) => .parameter ..) _) fun scope => ?_
  exact .bind (.inside _ _ (respects_sequence h body)) fun (_, _) => .pure _

theorem respects_callFunction (h : parts.Respect) (f : Function) (receiver : Option Receiver)
    (arguments : List Value) (position : Position) :
    (callFunction parts frame f receiver arguments position).Respects :=
  respects_enter h ..

theorem respects_callLambda (h : parts.Respect) (number : Nat) (receiver : Option Receiver)
    (arguments : List Value) (position : Position) :
    (callLambda parts frame number receiver arguments position).Respects := by
  unfold callLambda
  dsimp only
  split
  · split
    · exact respects_enter h ..
    · exact .ending (.ofOutcome ..)
  · exact .ending (.ofOutcome ..)

theorem respects_visitItems {α : Type} {called : α → Nat → Value → Run Ended}
    (h : ∀ so index item, (called so index item).Respects)
    (step : α → Nat → Value → Value → α × Bool) (visited : List Value) (so : α) (index : Nat)
    (items : List Value) : (visitItems called step visited so index items).Respects := by
  induction items generalizing visited so index with
  | nil => exact .pure _
  | cons item rest ih =>
      refine .bind (h so index item) fun (after, outcome) => ?_
      cases outcome with
      | error i => exact .pure _
      | ok answer =>
          dsimp only
          split
          · exact ih ..
          · exact .pure _

/-- To visit items is to call for each of them and then to put together what has become of them. -/
theorem respects_visit {callFor : CallFor}
    (h : ∀ callee bound approaches, (callFor callee bound approaches).Respects) {α : Type}
    {callee : Callee} {bound : List Value} {approaches : α → Nat → Value → List Approach}
    {step : α → Nat → Value → Value → α × Bool} {visited items : List Value} {so : α} {index : Nat}
    {ended : List Value × Except Interrupt α → Ended} :
    Run.Respects (do
      let left ← visitItems (fun so index item => callFor callee bound (approaches so index item))
        step visited so index items
      return ended left) :=
  .bind (respects_visitItems (fun _ _ _ => h ..) ..) fun left => .pure (ended left)

/-- A function that may be there respects what it respects wherever it is there. -/
theorem respects_of_map {α : Type} {found : Option α} {answer : α → Run Ended} {run : Run Ended}
    (h : ∀ a, (answer a).Respects) (hrun : found.map answer = some run) : run.Respects := by
  obtain ⟨a, -, rfl⟩ := Option.map_eq_some_iff.mp hrun
  exact h a

theorem respects_callVisitor? {callFor : CallFor}
    (h : ∀ callee bound approaches, (callFor callee bound approaches).Respects) {constant : Bool}
    {name : String} {arguments : List Value} {run : Run Ended}
    (hrun : callVisitor? callFor constant name arguments position = some run) : run.Respects := by
  unfold callVisitor? at hrun
  dsimp only at hrun
  -- Three of them take the name of a function too, which may stand for none.
  split at hrun
  · refine respects_of_map (fun f => ?_) hrun
    exact .bind (.ofOutcome position f) fun (_, _) => respects_visit h
  · refine respects_of_map (fun f => ?_) hrun
    exact .bind (.ofOutcome position f) fun (_, _) => respects_visit h
  · split at hrun
    · cases hrun
    · refine respects_of_map (fun f => ?_) hrun
      exact .bind (.ofOutcome position f) fun (_, _) => respects_visit h
  · split at hrun
    · exact Option.some.inj hrun ▸ respects_visit h
    · exact Option.some.inj hrun ▸ respects_visit h
    · cases hrun
  · exact Option.some.inj hrun ▸ respects_visit h
  · exact Option.some.inj hrun ▸ respects_visit h
  · cases hrun

theorem respects_callLibrary? {callFor : CallFor}
    (h : ∀ callee bound approaches, (callFor callee bound approaches).Respects) {constant : Bool}
    {name : String} {arguments : List Value} {run : Run Ended}
    (hrun : callLibrary? callFor constant name arguments position = some run) : run.Respects := by
  have hanswer {answer : Run Value} (hanswer : answer.Respects) :
      (do return (none, .ok (← answer)) : Run Ended).Respects := .bind hanswer fun _ => .pure _
  have hprint (text : String) : (do print text; return .unit : Run Value).Respects :=
    .bind (.print text) fun _ => .pure _
  unfold callLibrary? at hrun
  cases hvisitor : callVisitor? callFor constant name arguments position with
  | some visitor =>
      rw [hvisitor] at hrun
      cases hrun
      exact respects_callVisitor? h hvisitor
  | none =>
      rw [hvisitor] at hrun
      dsimp only at hrun
      split at hrun
      · exact Option.some.inj hrun ▸ hanswer (hprint _)
      · exact Option.some.inj hrun ▸ hanswer (hprint _)
      · exact Option.some.inj hrun ▸ hanswer (hprint _)
      · exact Option.some.inj hrun ▸ hanswer (hprint _)
      · exact Option.some.inj hrun ▸ hanswer (.throw _)
      · exact Option.some.inj hrun ▸ hanswer (.throw _)
      · exact respects_of_map (fun outcome => hanswer (.ofOutcome position outcome)) hrun
      · split at hrun
        · obtain rfl := Option.some.inj hrun
          exact respects_unless _ _ (.pure _)
        · exact respects_of_map (fun outcome => hanswer (.ofOutcome position outcome)) hrun

theorem respects_callNowhere (callee : Callee) (bound : List Value) (approaches : List Approach) :
    (callNowhere position callee bound approaches).Respects :=
  .ending (.ofOutcome ..)

theorem respects_callApproach? (h : parts.Respect) {name : String} {bound : List Value}
    {approach : Approach} {run : Run Ended}
    (hrun : callApproach? parts frame position name bound approach = some run) :
    run.Respects := by
  unfold callApproach? at hrun
  dsimp only at hrun
  split at hrun
  · exact Option.some.inj hrun ▸ respects_callFunction h ..
  · exact respects_callLibrary? respects_callNowhere hrun

theorem respects_callFor (h : parts.Respect) (callee : Callee) (bound : List Value)
    (approaches : List Approach) :
    (callFor parts frame position callee bound approaches).Respects := by
  unfold callFor
  split
  · dsimp only
    split
    · exact respects_callLambda h ..
    · exact .pure _
  · dsimp only
    split
    · next run hrun =>
        obtain ⟨approach, -, hrun⟩ := List.exists_of_findSome?_eq_some hrun
        exact .ending (respects_callApproach? h hrun)
    · exact .ending (.ofOutcome ..)

theorem respects_callNative (h : parts.Respect) (constant : Bool) (name : String)
    (arguments : List Value) (position : Position) :
    (callNative parts frame constant name arguments position).Respects := by
  refine .ending (.bind (.tick ..) fun _ => ?_)
  dsimp only
  split
  · next run hrun => exact respects_callLibrary? (respects_callFor h) hrun
  · exact .ofOutcome ..

theorem respects_callNamed (h : parts.Respect) (name : String) (arguments : List Value)
    (position : Position) : (callNamed parts frame name arguments position).Respects := by
  unfold callNamed
  split
  · exact respects_callFunction h ..
  · exact respects_callNative h ..

theorem respects_callValue (h : parts.Respect) (callee : Callee) (bound : List Value)
    (receiver : Option Receiver) (arguments : List Value) (position : Position) :
    (callValue parts frame callee bound receiver arguments position).Respects := by
  unfold callValue
  split
  · exact respects_callLambda h ..
  · exact .bind (.mapM .flatten _) fun _ => .bind (respects_callNamed h ..) fun _ => .pure _
  · refine .bind (.mapM .flatten _) fun bound => ?_
    dsimp only
    split
    · exact respects_callFunction h ..
    · exact respects_callNative h ..

theorem respects_noFunction (value : Value) (position : Position) :
    (noFunction value position).Respects :=
  .ending (.fail ..)

theorem respects_callMethod (h : parts.Respect) (receiver : Receiver) (name : String)
    (arguments : List Value) (place position : Position) :
    (callMethod parts frame receiver name arguments place position).Respects := by
  unfold callMethod
  dsimp only
  split
  case h_1 => exact respects_callValue h ..
  case h_2 => exact respects_callValue h ..
  case h_3 => exact respects_noFunction ..
  case h_4 => exact respects_noFunction ..
  case h_5 => exact .pure _
  case h_6 => exact respects_noFunction ..
  case h_7 => exact respects_callValue h ..
  case h_8 =>
    split
    · exact respects_callFunction h ..
    · exact respects_callNative h ..

/-! ## Chains -/

theorem respects_takeSteps (h : parts.Respect) (steps : List Step) :
    (takeSteps parts frame steps).Respects := by
  refine .mapM (fun step => ?_) steps
  cases step with
  | property name optional position => exact .pure _
  | method name arguments optional position =>
      exact .bind (.mapM (h.expression frame) _) fun _ => .pure _
  | index index optional position bracket => exact .bind (h.expression ..) fun _ => .pure _

theorem respects_walk (h : parts.Respect) (fixed : Option Fixed) (assigned : Option Assigned)
    (value : Value) (taken : List Taken) :
    (walk parts frame fixed assigned value taken).Respects := by
  induction taken generalizing fixed assigned value with
  | nil =>
      unfold walk
      exact .pure _
  | cons step rest ih =>
      unfold walk
      -- What comes after the test for a base that is `()`.
      extract_lets next
      have hnext : (next ()).Respects := by
        cases step with
        | property name _ position =>
            dsimp only [next]
            split
            · exact .pure _
            · refine .bind (ih ..) fun ended => ?_
              split <;> exact .pure _
            · split
              · exact .pure _
              · exact .pure _
              · exact .bind (ih ..) fun _ => .pure _
              · exact .pure _
        | index index _ position bracket =>
            dsimp only [next]
            split
            · exact .pure _
            · split
              · exact .pure _
              · exact .pure _
              · exact .pure _
              · split <;> exact .pure _
              · refine .bind (ih ..) fun ended => ?_
                split
                · split
                  · split <;> exact .pure _
                  · exact .pure _
                · exact .pure _
        | method name arguments _ place position =>
            refine .bind (respects_callMethod h ..) fun (after, outcome) => ?_
            cases outcome with
            | ok answer => exact .bind (ih ..) fun _ => .pure _
            | error i => exact .pure _
      split
      · split
        · exact .pure _
        · exact hnext
      · exact hnext

theorem respects_evaluateChain (h : parts.Respect) (base : Expr) (steps : List Step)
    (assigned : Option Assigned) : (evaluateChain parts frame base steps assigned).Respects := by
  refine .bind (respects_takeSteps h steps) fun taken => ?_
  split
  · refine .bind (.tick ..) fun _ => ?_
    split
    · exact .bind (respects_walk h ..) fun _ => .settle _
    · refine .bind (.find? _) fun found => ?_
      cases found with
      | none => exact .fail ..
      | some binding =>
          refine .bind (.current binding) fun (value, constant) => ?_
          refine .bind (respects_walk h ..) fun (after, outcome) => ?_
          cases after with
          | none => exact .settle outcome
          | some value =>
              refine .bind (.find? _) fun found => ?_
              cases found with
              | none => exact .settle outcome
              | some binding => exact .bind (.assign ..) fun _ => .settle outcome
  · refine .reading (fun m => ?_) fun hm => by rw [hm.receiver_eq]
    split
    · exact .fail ..
    · refine .bind (respects_walk h ..) fun (after, outcome) => ?_
      cases after with
      | none => exact .settle outcome
      | some value => exact .bind (.setReceiver _) fun _ => .settle outcome
  · exact .bind (h.expression ..) fun _ => .bind (respects_walk h ..) fun _ => .settle _

/-! ## Expressions -/

theorem respects_evaluateArguments (h : parts.Respect) {invoke : List Value → Run Ended}
    (hinvoke : ∀ values, (invoke values).Respects) (arguments : List Expr) :
    (evaluateArguments parts frame invoke arguments).Respects := by
  unfold evaluateArguments
  split
  · refine .bind (.mapM (h.expression frame) _) fun values => ?_
    split
    · exact .bind (hinvoke _) fun _ => .settle _
    · refine .bind (.find? _) fun found => ?_
      cases found with
      | none => exact .fail ..
      | some binding =>
          refine .bind (.flatten _) fun first => .bind (hinvoke _) fun (after, outcome) => ?_
          dsimp only
          split
          · exact .settle outcome
          · exact .settle outcome
          · split
            · exact .bind (.assign ..) fun _ => .settle outcome
            · exact .settle outcome
  · exact .bind (.mapM (h.expression frame) _) fun _ => .bind (hinvoke _) fun _ => .settle _

theorem respects_evaluateCallee (h : parts.Respect) (e : Expr) :
    (evaluateCallee parts frame e).Respects := by
  refine .bind (h.expression ..) fun value => ?_
  cases value with
  | function callee bound => exact .pure (callee, bound)
  | _ => exact .fail ..

theorem respects_evaluateText (h : parts.Respect) (e : Expr) :
    (evaluateText parts frame e).Respects := by
  refine .bind (h.expression ..) fun value => ?_
  cases value with
  | text s => exact .pure s
  | _ => exact .fail ..

theorem respects_isShared (name : String) (position : Position) :
    (isShared name position).Respects := by
  refine .bind (.find? name) fun found => ?_
  split
  · exact .pure _
  · exact .pure _
  · exact .fail ..

theorem respects_evaluateCall (h : parts.Respect) (function : String) (arguments : List Expr)
    (position : Position) : (evaluateCall parts frame function arguments position).Respects := by
  unfold evaluateCall
  split
  · refine .bind (respects_evaluateCallee h _) fun (callee, bound) => ?_
    dsimp -zeta only
    extract_lets invoke
    have hinvoke : ∀ values, (invoke values).Respects := by
      intro values
      dsimp only [invoke]
      split
      · exact respects_callNamed h ..
      · exact respects_callValue h ..
    split
    · exact respects_evaluateArguments h hinvoke _
    · exact .bind (.mapM (h.expression frame) _) fun _ => .bind (hinvoke _) fun _ => .settle _
  · refine .bind (respects_evaluateCallee h _) fun (_, _) => ?_
    exact .bind (.mapM (h.expression frame) _) fun _ => .pure _
  · exact .bind (respects_evaluateText h _) fun _ => .bind (.ofOutcome ..) fun _ => .pure _
  · exact respects_isShared ..
  · exact .bind (h.expression ..) fun _ => .pure _
  · exact .bind (respects_evaluateText h _) fun _ => .bind (.find? _) fun _ => .pure _
  · refine .bind (respects_evaluateText h _) fun _ => .bind (h.expression ..) fun value => ?_
    cases value with
    | int n => exact .pure _
    | _ => exact .fail ..
  · exact respects_evaluateArguments h (fun _ => respects_callNamed h ..) _

theorem respects_evaluateExpression (h : parts.Respect) (e : Expr) :
    (evaluateExpression parts frame e).Respects := by
  refine .bind (.tick ..) fun _ => ?_
  split
  case h_1 => exact .pure _
  case h_2 =>
    refine .bind (.mapM (fun _ => ?_) _) fun _ => .pure _
    exact .bind (h.expression ..) fun _ => .pure _
  case h_3 => exact .bind (.mapM (h.expression frame) _) fun _ => .pure _
  case h_4 =>
    refine .bind (.mapM (fun (_, _) => ?_) _) fun _ => .pure _
    exact .bind (h.expression ..) fun _ => .pure _
  case h_5 =>
    split
    · exact .pure _
    · refine .bind (.find? _) fun found => ?_
      cases found with
      | none => exact .fail ..
      | some binding => exact .flatten _
  case h_6 =>
    refine .reading (fun m => ?_) fun hm => by rw [hm.receiver_eq]
    split
    · exact .pure _
    · exact .fail ..
  case h_7 => exact respects_evaluateCall h ..
  case h_8 => exact .bind (h.expression ..) fun _ => .ofOutcome ..
  case h_9 => exact .bind (h.expression ..) fun _ => .bind (h.expression ..) fun _ => .ofOutcome ..
  case h_10 =>
    refine .bind (h.expression ..) fun first => ?_
    split
    · split
      · exact h.expression ..
      · exact .pure _
    · refine .bind (.condition ..) fun first => ?_
      split
      · exact .pure _
      · exact .bind (h.expression ..) fun _ => .bind (.condition ..) fun _ => .pure _
  case h_11 => exact respects_isShared ..
  case h_12 => exact respects_evaluateChain h ..
  case h_13 =>
    refine .bind (.mapM (fun capture => ?_) _) fun _ => .pure _
    cases capture with
    | shared name position => exact .share name position
    | settled value => exact .pure value
  case h_14 => exact h.statement ..

/-! ## Statements -/

theorem respects_evaluateBlock (h : parts.Respect) (body : List Stmt) :
    (evaluateBlock parts frame body).Respects :=
  .enclosed (respects_sequence h body)

theorem respects_takeTurn (h : parts.Respect) (body : List Stmt) :
    (takeTurn parts frame body).Respects := by
  refine .bind (.attempt (respects_evaluateBlock h body)) fun outcome => ?_
  split
  · exact .pure _
  · exact .pure _
  · exact .pure _
  · exact .throw _

theorem respects_evaluateCondition (h : parts.Respect) (e : Expr) :
    (evaluateCondition parts frame e).Respects :=
  .bind (h.expression ..) fun _ => .condition ..

theorem respects_takeTurns (h : parts.Respect) {before after : Run Bool}
    (hbefore : before.Respects) (hafter : after.Respects) (body : List Stmt)
    (position : Position) (turns : Nat) :
    (takeTurns parts frame before after body position turns).Respects := by
  induction turns with
  | zero => exact .fail ..
  | succ turns ih =>
      refine .bind hbefore fun begins => ?_
      split
      · refine .bind (.tick ..) fun _ => .bind (respects_takeTurn h body) fun turn => ?_
        cases turn with
        | stop value => exact .pure value
        | proceed =>
            refine .bind hafter fun goesOn => ?_
            split
            · exact ih
            · exact .pure _
      · exact .pure _

/-- The variable of a loop takes its next value, and the counter counts, if they are there. -/
theorem respects_advance (name : String) (counter : Option String) (index : Nat) (value : Value)
    {turn : Run Value} (hturn : turn.Respects) :
    Run.Respects (do
      tick frame position
      if let some counter := counter then
        if let some binding ← find? counter then assign binding (Library.count index)
      if let some binding ← find? name then assign binding value
      turn) := by
  have hnext := respects_assignIfFound name value hturn
  refine .bind (.tick ..) fun _ => ?_
  cases counter with
  | none => exact hnext
  | some counter => exact respects_assignIfFound counter _ hnext

theorem respects_takeEach (h : parts.Respect) (name : String) (counter : Option String)
    (body : List Stmt) (position : Position) (index : Nat) (values : List Value) :
    (takeEach parts frame name counter body position index values).Respects := by
  induction values generalizing index with
  | nil => exact .pure Value.unit
  | cons value rest ih =>
      refine respects_advance name counter index value ?_
      refine .bind (respects_takeTurn h body) fun turn => ?_
      cases turn with
      | stop value => exact .pure value
      | proceed => exact ih (index + 1)

theorem respects_takeRange (h : parts.Respect) (name : String) (counter : Option String)
    (body : List Stmt) (position : Position) (low : Int64) (index length : Nat) :
    (takeRange parts frame name counter body position low index length).Respects := by
  induction length generalizing index with
  | zero => exact .pure Value.unit
  | succ length ih =>
      refine respects_advance name counter index _ ?_
      refine .bind (respects_takeTurn h body) fun turn => ?_
      cases turn with
      | stop value => exact .pure value
      | proceed => exact ih (index + 1)

theorem respects_evaluateFor (h : parts.Respect) (name : String) (counter : Option String)
    (items : Expr) (body : List Stmt) (position : Position) :
    (evaluateFor parts frame name counter items body position).Respects := by
  refine .bind (h.expression ..) fun collection => .enclosed ?_
  extract_lets next
  have hnext : (next ()).Respects := by
    refine .bind (.declare ..) fun _ => ?_
    split
    · exact respects_takeEach h ..
    · exact respects_takeEach h ..
    · exact respects_takeEach h ..
    · exact respects_takeRange h ..
    · exact .fail ..
  cases counter with
  | none => exact hnext
  | some counter => exact .bind (.declare ..) fun _ => hnext

theorem respects_firstAction (h : parts.Respect) (cases : List Case) :
    (firstAction parts frame cases).Respects := by
  fun_induction firstAction parts frame cases with
  | case1 => exact .pure none
  | case2 patterns action rest => exact .pure (some action)
  | case3 patterns guard action rest ih =>
      refine .bind (respects_evaluateCondition h guard) fun holds => ?_
      split
      · exact .pure (some action)
      · exact ih

theorem respects_evaluateSwitch (h : parts.Respect) (subject : Expr) (cases : List Case)
    (otherwise : Option Stmt) :
    (evaluateSwitch parts frame subject cases otherwise).Respects := by
  refine .bind (h.expression ..) fun value => .bind (respects_firstAction h _) fun chosen => ?_
  split
  · exact respects_evaluateBlock h _
  · exact .pure _

theorem respects_evaluateDeclaration (h : parts.Respect) (name : String)
    (constant replaces : Bool) (value : Option Expr) :
    (evaluateDeclaration parts frame name constant replaces value).Respects := by
  have hdeclared (value : Value) : Run.Respects (do
      if replaces then redeclare name constant value else declare name constant value
      return Value.unit) := by
    split
    · exact .bind (.redeclare ..) fun _ => .pure _
    · exact .bind (.declare ..) fun _ => .pure _
  cases value with
  | none => exact .bind (.pure Value.unit) hdeclared
  | some e => exact .bind (h.expression ..) hdeclared

theorem respects_evaluateAssignment (h : parts.Respect) (target : Expr)
    (operator : Option String) (value : Expr) (position : Position) :
    (evaluateAssignment parts frame target operator value position).Respects := by
  refine .bind (h.expression ..) fun value => ?_
  extract_lets assigned
  split
  · refine .bind (.tick ..) fun _ => respects_unless _ _ (.bind (.find? _) fun found => ?_)
    cases found with
    | none => exact .fail ..
    | some binding =>
        refine .bind (.current binding) fun (old, constant) => respects_unless _ _ ?_
        exact .bind (.ofOutcome ..) fun _ => .bind (.assign ..) fun _ => .pure _
  · refine .reading (fun m => ?_) fun hm => by rw [hm.receiver_eq]
    split
    · exact .fail ..
    · refine respects_unless _ _ (.bind (.ofOutcome ..) fun _ => ?_)
      exact .bind (.setReceiver _) fun _ => .pure _
  · exact respects_evaluateChain h ..
  · exact .fail ..

theorem respects_evaluateAttempt (h : parts.Respect) (body : List Stmt) (name : Option String)
    (handler : List Stmt) : (evaluateAttempt parts frame body name handler).Respects := by
  refine .bind (.attempt (respects_evaluateBlock h body)) fun outcome => ?_
  split
  · exact .pure _
  · next fault =>
      refine respects_unless _ _ (.bind (.attempt (.enclosed ?_)) fun again => ?_)
      · cases name with
        | none => exact respects_evaluateBlock h handler
        | some name => exact .bind (.declare ..) fun _ => respects_evaluateBlock h handler
      · split
        · exact .pure _
        · split <;> exact .throw _
        · exact .throw _
  · exact .throw _

theorem respects_evaluateOptional (h : parts.Respect) (e : Option Expr) :
    (evaluateOptional parts frame e).Respects := by
  cases e with
  | none => exact .pure Value.unit
  | some e => exact h.expression ..

theorem respects_evaluateStatement (h : parts.Respect) (statement : Stmt) :
    (evaluateStatement parts frame statement).Respects := by
  refine .bind (.tick ..) fun _ => ?_
  cases statement with
  | expression e => exact h.expression ..
  | declare name constant replaces value _ => exact respects_evaluateDeclaration h ..
  | assign target operator value position => exact respects_evaluateAssignment h ..
  | block body _ => exact respects_evaluateBlock h body
  | branch guard yes no _ =>
      refine .bind (respects_evaluateCondition h guard) fun holds => ?_
      cases holds with
      | true => exact respects_evaluateBlock h yes
      | false => exact respects_evaluateBlock h no
  | switch subject cases otherwise _ => exact respects_evaluateSwitch h ..
  | whileLoop guard body _ _ =>
      refine respects_takeTurns h ?_ (.pure true) ..
      cases guard with
      | none => exact .pure true
      | some guard => exact respects_evaluateCondition h guard
  | doLoop body guard wanted _ _ =>
      exact respects_takeTurns h (.pure true)
        (.bind (respects_evaluateCondition h guard) fun _ => .pure _) ..
  | forLoop name counter items body _ _ => exact respects_evaluateFor h ..
  | breakLoop value _ => exact .bind (respects_evaluateOptional h value) fun _ => .throw _
  | continueLoop _ => exact .throw _
  | returnValue value _ => exact .bind (respects_evaluateOptional h value) fun _ => .throw _
  | throwValue value _ => exact .bind (respects_evaluateOptional h value) fun _ => .fail ..
  | attempt body name handler _ => exact respects_evaluateAttempt h ..

end

/-- However deeply the parts of a script nest, they reach variables by name alone. -/
theorem respect_evaluators (fuel : Nat) : (evaluators fuel).Respect := by
  induction fuel with
  | zero => exact ⟨fun _ _ => .fail .., fun _ _ => .fail ..⟩
  | succ fuel ih =>
      exact ⟨fun _ => respects_evaluateExpression ih, fun _ => respects_evaluateStatement ih⟩

/-- A script comes to the same on machines that differ in nothing but hidden variables. -/
theorem respects_runStatements (code : Code) (fuel : Nat) (body : List Stmt) :
    (runStatements code fuel body).Respects := by
  refine .bind (.attempt (respects_sequence (respect_evaluators fuel) body)) fun outcome => ?_
  split
  · exact .pure _
  · exact .pure _
  · exact .pure _
  · exact .throw _

end Cellbook.Script
