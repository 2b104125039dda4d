import Cellbook.Proofs.Engine.Departure
import Cellbook.Script.Evaluator

/-!
# Rejected source texts

The tail of a cell is given to its language twice where it is no expression: to be evaluated, which
is refused, and then to be run.  This comes to one run of it because a refusal changes nothing: a
program that cannot be read, and a text that is no expression, leave the environment as it was and
print nothing (`atomic_evaluator`).

For any language that refuses so (`Evaluator.Atomic`), a cell whose tail is no expression is its
body and then its tail, run once each, and of a cell whose body fails the tail is not asked for at
all (`rejected_atomic`).
-/

namespace Cellbook

variable {ε ν σ : Type}

/-! ## Languages that refuse without a trace -/

/-- A language for which what it refuses to read has no effect. -/
structure Evaluator.Atomic (evaluator : Evaluator ε ν) : Prop where
  /-- A program that cannot be read is not run in part. -/
  run {environment : ε} {source message : String}
    (h : (evaluator.run environment source).outcome = .error (.parse message)) :
    evaluator.run environment source = ⟨environment, [], .error (.parse message)⟩
  /-- A text that is no expression is not evaluated in part. -/
  evaluate? {environment : ε} {source : String}
    (h : (evaluator.evaluate? environment source).outcome = .ok none) :
    evaluator.evaluate? environment source = .done environment none

/-- A call that comes to no value to be shown. -/
def Called.withoutValue (called : Called ε Unit) : Called ε (Option ν) :=
  called.bind fun environment _ => .done environment none

@[simp] theorem Called.environment_withoutValue (called : Called ε Unit) :
    (called.withoutValue (ν := ν)).environment = called.environment := by
  rcases called with ⟨environment, printed, ⟨fault⟩ | ⟨⟩⟩ <;> rfl

@[simp] theorem Called.printed_withoutValue (called : Called ε Unit) :
    (called.withoutValue (ν := ν)).printed = called.printed := by
  rcases called with ⟨environment, printed, ⟨fault⟩ | ⟨⟩⟩
  · rfl
  · exact List.append_nil printed

@[simp] theorem Called.outcome_withoutValue (called : Called ε Unit) :
    (called.withoutValue (ν := ν)).outcome = called.outcome.map fun _ => none := by
  rcases called with ⟨environment, printed, ⟨fault⟩ | ⟨⟩⟩ <;> rfl

theorem Called.withoutValue_bind (called : Called ε Unit) (next : ε → Unit → Called ε Unit) :
    (called.bind next).withoutValue (ν := ν) =
      called.bind fun environment value => (next environment value).withoutValue := by
  rcases called with ⟨environment, printed, ⟨fault⟩ | ⟨⟩⟩
  · rfl
  · simp only [bind, withoutValue]
    split <;> simp [done]

/-- Calls in sequence are the same if they go on alike from where the first has succeeded. -/
theorem Called.bind_congr {α β : Type} {called : Called ε α} {next next' : ε → α → Called ε β}
    (h : ∀ value, called.outcome = .ok value →
      next called.environment value = next' called.environment value) :
    called.bind next = called.bind next' := by
  rw [bind, bind]
  split
  · rfl
  · next value hvalue => rw [h value hvalue]

/-- Nothing is sent of a call without a value but what it printed. -/
theorem Called.deliver_withoutValue [Represent ν] (called : Called ε Unit) (channel : Channel σ)
    (printing : Printing σ) :
    (called.withoutValue (ν := ν)).deliver channel printing =
      ⟨called.environment, (printing.printAll channel called.printed).state, called.outcome⟩ := by
  rcases called with ⟨environment, printed, ⟨fault⟩ | ⟨⟩⟩
  · rfl
  · simp [withoutValue, bind, done, deliver]

namespace Evaluator

variable {evaluator : Evaluator ε ν} {parts : CellParts} {environment : ε} {tail : String}

/-- What the body of a cell asks of the evaluator. -/
def bodyRequests (parts : CellParts) (environment : ε) : List (Request ε) :=
  (parts.body.map (Request.run environment)).toList

/-- To keep what the body asks changes nothing else about it. -/
theorem callBody_traced (evaluator : Evaluator ε ν) (parts : CellParts) (environment : ε) :
    evaluator.traced.callBody parts.body (environment, []) =
      (evaluator.callBody parts.body environment).mapEnvironment fun after =>
        (after, bodyRequests parts environment) := by
  rw [bodyRequests]
  cases parts.body <;> rfl

/-- A tail that is no expression is run once. -/
theorem Atomic.callTail_eq (h : evaluator.Atomic)
    (hrejected : (evaluator.evaluate? environment tail).outcome = .ok none) :
    evaluator.callTail tail environment = (evaluator.run environment tail).withoutValue := by
  rw [callTail, h.evaluate? hrejected]
  rfl

/-- A cell whose tail is no expression is its body and then its tail, run once each. -/
theorem Atomic.callCell_eq (h : evaluator.Atomic) (htail : parts.tail = some tail)
    (hrejected : (evaluator.evaluate?
      (evaluator.callBody parts.body environment).environment tail).outcome = .ok none) :
    evaluator.callCell parts environment =
      ((evaluator.callBody parts.body environment).bind fun environment _ =>
        evaluator.run environment tail).withoutValue := by
  rw [callCell, htail, Called.withoutValue_bind]
  exact Called.bind_congr fun _ _ => h.callTail_eq hrejected

theorem Atomic.evaluate?_traced (h : evaluator.Atomic)
    (hrejected : (evaluator.evaluate? environment tail).outcome = .ok none)
    (requests : List (Request ε)) :
    evaluator.traced.evaluate? (environment, requests) tail =
      .done (environment, requests ++ [.evaluate environment tail]) none := by
  change Called.mapEnvironment (fun last => (last, requests ++ [Request.evaluate environment tail]))
    (evaluator.evaluate? environment tail) = _
  rw [h.evaluate? hrejected]
  rfl

/-- A rejected tail is asked for twice, to be evaluated and to be run. -/
theorem requests_of_rejected (h : evaluator.Atomic) (htail : parts.tail = some tail)
    (hbody : (evaluator.callBody parts.body environment).outcome = .ok ())
    (hrejected : (evaluator.evaluate?
      (evaluator.callBody parts.body environment).environment tail).outcome = .ok none) :
    let after := (evaluator.callBody parts.body environment).environment
    evaluator.requests parts environment =
      bodyRequests parts environment ++ [.evaluate after tail, .run after tail] := by
  intro after
  have hevaluated := h.evaluate?_traced hrejected (bodyRequests parts environment)
  rw [requests, callCell, callBody_traced, htail, Called.bind, Called.mapEnvironment, hbody]
  dsimp only
  rw [callTail, hevaluated]
  change (evaluator.traced.run (after, _) tail).withoutValue.environment.2 = _
  rw [Called.environment_withoutValue]
  exact List.append_assoc _ _ _

/-- Of a cell whose body fails the tail is not asked for. -/
theorem callCell_of_body_error {fault : CellFault}
    (h : (evaluator.callBody parts.body environment).outcome = .error fault) :
    evaluator.callCell parts environment =
      (evaluator.callBody parts.body environment).withoutValue := by
  rw [callCell, Called.withoutValue, Called.bind, Called.bind, h]

theorem requests_of_body_error {fault : CellFault}
    (h : (evaluator.callBody parts.body environment).outcome = .error fault) :
    evaluator.requests parts environment = bodyRequests parts environment := by
  have htraced := evaluator.callBody_traced parts environment
  have houtcome : (evaluator.traced.callBody parts.body (environment, [])).outcome =
      .error fault := by
    rw [htraced]
    exact h
  rw [requests, callCell_of_body_error houtcome, Called.withoutValue, Called.bind, houtcome,
    htraced]
  rfl

end Evaluator

/-! ## Runs of an engine -/

namespace Engine

variable (engine : Engine ε ν)

/-- A run of a notebook that comes to a call: what the call prints is printed onto the channel, and
nothing else is sent; its environment is left, and it ends as the call does. -/
def RunsAs [Represent ν] (channel : Channel σ) (id : NotebookId) (source : String) (state : σ)
    (called : Called ε Unit) : Prop :=
  engine.run channel id source state =
    ((engine.lookUp id).1.setEnvironment (engine.lookUp id).2 called.environment,
      ((⟨state, false⟩ : Printing σ).printAll channel called.printed).state, called.outcome)

theorem runsAs_of_callCell_eq [Represent ν] {channel : Channel σ} {id : NotebookId}
    {source : String} {state : σ} {called : Called ε Unit}
    (h : engine.callCell id source = called.withoutValue) :
    engine.RunsAs channel id source state called := by
  rw [RunsAs, run_eq, Evaluator.executeIn, ← callCell, h, Called.deliver_withoutValue]

theorem asks_requests [Represent ν] (channel : Channel σ) (id : NotebookId) (source : String)
    (state : σ) :
    engine.Asks channel id source state
      (engine.evaluator.requests (CellParts.ofSource source) (engine.environmentOf id)) :=
  engine.evaluator.execute_traced channel _ _ state

/-- A run of a notebook whose evaluator refuses without a trace gives each part of the cell to the
evaluator to be run at most once. -/
structure RunsOnce [Represent ν] (channel : Channel σ) (id : NotebookId) (source : String)
    (state : σ) (body : Called ε Unit) (requests : List (Request ε)) : Prop where
  /-- A tail that is no expression is run once, after the body. -/
  tail {tail : String} (htail : (CellParts.ofSource source).tail = some tail)
    (hrejected : (engine.evaluator.evaluate? body.environment tail).outcome = .ok none) :
    engine.RunsAs channel id source state
        (body.bind fun environment _ => engine.evaluator.run environment tail) ∧
      (body.outcome = .ok () → engine.Asks channel id source state
        (requests ++ [.evaluate body.environment tail, .run body.environment tail]))
  /-- After a body that fails the tail is neither evaluated nor run. -/
  body_error {fault : CellFault} (hbody : body.outcome = .error fault) :
    engine.RunsAs channel id source state body ∧ engine.Asks channel id source state requests

theorem runsOnce [Represent ν] (h : engine.evaluator.Atomic) (channel : Channel σ)
    (id : NotebookId) (source : String) (state : σ) :
    let parts := CellParts.ofSource source
    let environment := engine.environmentOf id
    engine.RunsOnce channel id source state (engine.evaluator.callBody parts.body environment)
      (Evaluator.bodyRequests parts environment) where
  tail htail hrejected := by
    refine ⟨engine.runsAs_of_callCell_eq (h.callCell_eq htail hrejected), fun hbody => ?_⟩
    rw [← Evaluator.requests_of_rejected h htail hbody hrejected]
    exact engine.asks_requests channel id source state
  body_error hbody := by
    refine ⟨engine.runsAs_of_callCell_eq (Evaluator.callCell_of_body_error hbody), ?_⟩
    rw [← Evaluator.requests_of_body_error hbody]
    exact engine.asks_requests channel id source state

end Engine

/-! ## The script language -/

namespace Script

variable {limit : Nat} {environment : Environment} {source : String}

/-- A program that ends with a fault of reading was not read, for its own faults are others. -/
theorem runSource_of_parse {message : String}
    (h : (runSource limit environment source).outcome = .error (.parse message)) :
    runSource limit environment source = ⟨environment, [], .error (.parse message)⟩ := by
  rw [runSource] at h ⊢
  generalize environment.run limit source = ran at h ⊢
  cases ran with
  | error fault => exact congrArg (Called.mk environment []) h
  | ok ran =>
      dsimp only at h
      cases houtcome : ran.outcome <;> simp [houtcome, Except.map, Except.mapError] at h

/-- A text that comes to no value and to no fault was not read as an expression. -/
theorem evaluateSource_of_none
    (h : (evaluateSource limit environment source).outcome = .ok none) :
    evaluateSource limit environment source = .done environment none := by
  delta evaluateSource at h ⊢
  generalize environment.evaluate? limit source = ran at h ⊢
  cases ran with
  | none => rw [Called.done]
  | some ran =>
      dsimp only at h
      cases houtcome : ran.outcome <;> simp [houtcome, Except.map, Except.mapError] at h

/-- Scripts that are refused leave no trace. -/
theorem atomic_evaluator (limit : Nat) : (evaluator limit).Atomic where
  run := runSource_of_parse
  evaluate? := evaluateSource_of_none

/-- A script that is refused leaves the environment as it was and prints nothing.  Hence a run of a
cell whose tail is no expression is its body and then its tail, run once each, and after a body that
fails the tail is not asked for. -/
theorem rejected_atomic (limit : Nat) (registry : Registry Environment) (channel : Channel σ)
    (id : NotebookId) (source : String) (state : σ) :
    let engine : Engine Environment Value := ⟨evaluator limit, registry⟩
    let parts := CellParts.ofSource source
    let environment := engine.environmentOf id
    (evaluator limit).Atomic ∧
      engine.RunsOnce channel id source state ((evaluator limit).callBody parts.body environment)
        (Evaluator.bodyRequests parts environment) := by
  intro engine parts environment
  exact ⟨atomic_evaluator limit, engine.runsOnce (atomic_evaluator limit) channel id source state⟩

/-- A declaration in the last line is asked for twice and bound once; after a body that fails it is
not asked for. -/
theorem rejected_atomic_declaration :
    let engine : Engine Environment Value := ⟨evaluator 0, .empty⟩
    let id : NotebookId := ⟨"a.unb", by decide⟩
    let declares := (evaluator 0).run .empty "let x = 1;"
    let fails := (evaluator 0).run .empty "let x = 1; y = x;"
    engine.Asks Recorder.channel id "let x = 1;\nlet y = x;" (.empty none)
        [.run .empty "let x = 1;", .evaluate declares.environment "let y = x;",
          .run declares.environment "let y = x;"] ∧
      engine.RunsAs Recorder.channel id "let x = 1; y = x;\nlet y = x;" (.empty none) fails ∧
      engine.Asks Recorder.channel id "let x = 1; y = x;\nlet y = x;" (.empty none)
        [.run .empty "let x = 1; y = x;"] := by
  intro engine id declares fails
  have hrejected :=
    (rejected_atomic 0 .empty Recorder.channel id "let x = 1;\nlet y = x;" (.empty none)).2
  have hfailed :=
    (rejected_atomic 0 .empty Recorder.channel id "let x = 1; y = x;\nlet y = x;" (.empty none)).2
  have hparts : CellParts.ofSource "let x = 1;\nlet y = x;" =
      ⟨some "let x = 1;", some "let y = x;"⟩ := by decide +kernel
  have hparts' : CellParts.ofSource "let x = 1; y = x;\nlet y = x;" =
      ⟨some "let x = 1; y = x;", some "let y = x;"⟩ := by decide +kernel
  have hfresh : engine.environmentOf id = .empty := rfl
  have hdeclares : declares.outcome = .ok () := by decide +kernel
  have hnone : ((evaluator 0).evaluate? declares.environment "let y = x;").outcome.map
      Option.isNone = .ok true := by decide +kernel
  have hrefused : ∀ outcome : Except CellFault (Option Value),
      outcome.map Option.isNone = .ok true → outcome = .ok none := by
    rintro (fault | ⟨_ | value⟩) h <;> simp_all [Except.map]
  have hfault : fails.outcome.isOk = false := by decide +kernel
  rw [hparts, hfresh] at hrejected
  rw [hparts', hfresh] at hfailed
  change engine.RunsOnce _ _ _ _ declares [.run .empty "let x = 1;"] at hrejected
  change engine.RunsOnce _ _ _ _ fails [.run .empty "let x = 1; y = x;"] at hfailed
  constructor
  · exact (hrejected.tail (congrArg CellParts.tail hparts) (hrefused _ hnone)).2 hdeclares
  · generalize hcase : fails.outcome = outcome at hfault
    cases outcome with
    | error fault => exact hfailed.body_error hcase
    | ok _ => cases hfault

end Script

end Cellbook
