import Cellbook.Engine.Engine
import Cellbook.Proofs.Channel.Delivery

/-!
# The course of a cell

What a cell comes to does not depend on the channel it is run on.  `Evaluator.callCell` is the cell
as one call of the evaluator: its body as statements, then its tail as an expression and, where it
is none, as statements.  `Called.deliver` sends what such a call comes to onto a channel, and
execution is the one after the other, on any channel (`execute_eq_deliver`).

On a reliable channel delivery is a plain list of sends, `Called.sends`: a frame for every printed
text and then the written form of the value.
-/

namespace Cellbook

variable {ε ν σ α β : Type}

/-! ## Calls in sequence -/

namespace Called

/-- A call that prints nothing and leaves the environment as it is. -/
def done (environment : ε) (value : α) : Called ε α := ⟨environment, [], .ok value⟩

/-- Goes on from where a call left off, unless it failed. -/
def bind (called : Called ε α) (next : ε → α → Called ε β) : Called ε β :=
  match called.outcome with
  | .error fault => ⟨called.environment, called.printed, .error fault⟩
  | .ok value =>
    let after := next called.environment value
    ⟨after.environment, called.printed ++ after.printed, after.outcome⟩

end Called

namespace Evaluator

variable (evaluator : Evaluator ε ν)

/-- Runs the body of a cell, if there is one. -/
def callBody (body : Option String) (environment : ε) : Called ε Unit :=
  match body with
  | none => .done environment ()
  | some source => evaluator.run environment source

/-- Evaluates the tail of a cell, or runs it as statements where it is no expression. -/
def callTail (source : String) (environment : ε) : Called ε (Option ν) :=
  (evaluator.evaluate? environment source).bind fun environment value =>
    match value with
    | some value => .done environment (some value)
    | none => (evaluator.run environment source).bind fun environment _ => .done environment none

/-- A cell as one call, whose value is that of its tail, if it has one. -/
def callCell (parts : CellParts) (environment : ε) : Called ε (Option ν) :=
  (evaluator.callBody parts.body environment).bind fun environment _ =>
    match parts.tail with
    | none => .done environment none
    | some source => evaluator.callTail source environment

/-- A blank cell comes to nothing. -/
theorem callCell_of_isEmpty {parts : CellParts} (h : parts.isEmpty = true) (environment : ε) :
    evaluator.callCell parts environment = .done environment none := by
  rw [CellParts.isEmpty, Bool.and_eq_true, Option.isNone_iff_eq_none,
    Option.isNone_iff_eq_none] at h
  rw [callCell, h.1, h.2]
  rfl

/-- A cell without a tail has no value. -/
theorem callCell_of_tail_eq_none {parts : CellParts} (h : parts.tail = none) (environment : ε)
    (value : ν) : (evaluator.callCell parts environment).outcome ≠ .ok (some value) := by
  rw [callCell, Called.bind, h]
  split <;> simp [Called.done]

/-- A cell whose tail is no expression has no value. -/
theorem callCell_of_evaluate?_eq_none {parts : CellParts} {environment : ε} {tail : String}
    (htail : parts.tail = some tail)
    (h : (evaluator.evaluate?
      (evaluator.callBody parts.body environment).environment tail).outcome = .ok none)
    (value : ν) :
    (evaluator.callCell parts environment).outcome ≠ .ok (some value) := by
  rw [callCell, Called.bind, htail]
  split
  · simp
  · dsimp only
    rw [callTail, Called.bind, h]
    dsimp only
    rw [Called.bind]
    split <;> simp [Called.done]

/-- The language in which a cell prints what is run of it and every expression is its own value. -/
def echo : Evaluator Nat String where
  fresh := 0
  run environment source := ⟨environment + 1, [source], .ok ()⟩
  evaluate? environment source := ⟨environment + 1, [], .ok (some source)⟩

end Evaluator

/-! ## Delivery -/

/-- Sends what a cell printed onto a channel, and then its value, if it has one. -/
def Called.deliver [Represent ν] (called : Called ε (Option ν)) (channel : Channel σ)
    (printing : Printing σ) : Executed ε σ :=
  let printing := printing.printAll channel called.printed
  match called.outcome with
  | .error fault => ⟨called.environment, printing.state, .error fault⟩
  | .ok none => ⟨called.environment, printing.state, .ok ()⟩
  | .ok (some value) =>
    let (state, sent) := (encode value).writeTo channel printing.state
    ⟨called.environment, state, sent.mapError .channel⟩

/-- Delivery leaves the environment as the call left it. -/
@[simp] theorem Called.deliver_environment [Represent ν] (called : Called ε (Option ν))
    (channel : Channel σ) (printing : Printing σ) :
    (called.deliver channel printing).environment = called.environment := by
  rcases called with ⟨environment, printed, ⟨fault⟩ | ⟨_ | value⟩⟩ <;> rfl

theorem Printing.printAll_append (channel : Channel σ) (printing : Printing σ)
    (texts more : List String) :
    printing.printAll channel (texts ++ more) =
      (printing.printAll channel texts).printAll channel more := List.foldl_append

namespace Evaluator

variable (evaluator : Evaluator ε ν) (channel : Channel σ)

theorem runTail_eq_deliver [Represent ν] (source : String) (environment : ε)
    (printing : Printing σ) :
    evaluator.runTail channel source environment printing =
      (evaluator.callTail source environment).deliver channel printing := by
  rw [runTail, callTail, Called.bind]
  rcases evaluator.evaluate? environment source with ⟨after, printed, ⟨fault⟩ | ⟨_ | value⟩⟩
  · rfl
  · dsimp only
    rw [runPart, Called.bind]
    rcases evaluator.run after source with ⟨last, more, ⟨fault⟩ | ⟨⟩⟩
    · simp [Called.deliver, Progress.finish, Printing.printAll_append]
    · simp [Called.deliver, Progress.finish, Called.done, Printing.printAll_append]
  · simp [Called.deliver, Called.done]

/-- Execution is the cell as one call, delivered, whatever the channel does. -/
theorem execute_eq_deliver [Represent ν] (parts : CellParts) (environment : ε) (state : σ) :
    evaluator.execute channel parts environment state =
      (evaluator.callCell parts environment).deliver channel ⟨state, false⟩ := by
  have hbody : evaluator.runBody channel parts.body environment state =
      let called := evaluator.callBody parts.body environment
      ⟨called.environment, (⟨state, false⟩ : Printing σ).printAll channel called.printed,
        called.outcome⟩ := by
    cases parts.body <;> rfl
  rw [execute, hbody, callCell, Called.bind]
  rcases evaluator.callBody parts.body environment with ⟨after, printed, ⟨fault⟩ | ⟨⟩⟩
  · rfl
  · cases parts.tail with
    | none => simp [Called.deliver, Called.done, Progress.finish]
    | some source =>
        dsimp only
        rw [runTail_eq_deliver]
        simp only [Called.deliver, Printing.printAll_append]

end Evaluator

/-! ## Reliable channels -/

/-- What a cell sends: a frame for every printed text, and then its value as it is shown. -/
def Called.sends [Represent ν] (called : Called ε (Option ν)) : List Bytes :=
  called.printed.map (fun text => Text.encode (frame text)) ++
    match called.outcome with
    | .ok (some value) => (encode value).sends
    | _ => []

namespace Channel.Reliable

variable {channel : Channel σ} {good : σ → Prop} {state : σ}

/-- On a reliable channel, printing sends a frame for every text. -/
theorem printAll_eq (h : channel.Reliable good) (hstate : good state) (texts : List String) :
    (⟨state, false⟩ : Printing σ).printAll channel texts =
      ⟨(channel.sendAll state (texts.map fun text => Text.encode (frame text))).1, false⟩ := by
  induction texts generalizing state with
  | nil => rfl
  | cons text texts ih =>
      have hprint : (⟨state, false⟩ : Printing σ).print channel text =
          ⟨(channel.send state (Text.encode (frame text))).1, false⟩ := by
        rw [Printing.print, if_neg Bool.false_ne_true, sendText, h.send_eq hstate]
      rw [List.map_cons, h.sendAll_cons hstate, ← ih (h.stays hstate _), ← hprint]
      rfl

/-- On a reliable channel, a cell sends what `Called.sends` says, and no fault comes of it. -/
theorem deliver_eq [Represent ν] (h : channel.Reliable good) (hstate : good state)
    (called : Called ε (Option ν)) :
    called.deliver channel ⟨state, false⟩ =
      ⟨called.environment, (channel.sendAll state called.sends).1,
        called.outcome.map fun _ => ()⟩ := by
  rw [Called.deliver, h.printAll_eq hstate]
  rcases called with ⟨environment, printed, ⟨fault⟩ | ⟨_ | value⟩⟩
  · simp [Called.sends, Except.map]
  · simp [Called.sends, Except.map]
  · have hstay := h.sendAll_stays hstate (printed.map fun text => Text.encode (frame text))
    have hsent := h.sendAll_succeeds hstay (encode value).sends
    simp only [Called.sends, Rendered.writeTo, h.sendAll_append hstate, hsent]
    rfl

end Channel.Reliable

/-! ## Runs of an engine -/

namespace Engine

variable (engine : Engine ε ν)

/-- The environment in which a run of a notebook executes its cell. -/
def environmentOf (id : NotebookId) : ε :=
  let (engine, handle) := engine.lookUp id
  engine.environment handle

/-- What a cell of a notebook comes to. -/
def callCell (id : NotebookId) (source : String) : Called ε (Option ν) :=
  engine.evaluator.callCell (CellParts.ofSource source) (engine.environmentOf id)

/-- A run on a reliable channel sends what the cell comes to, and ends as the cell does. -/
theorem run_eq_of_reliable [Represent ν] {channel : Channel σ} {good : σ → Prop} {state : σ}
    (h : channel.Reliable good) (hstate : good state) (id : NotebookId) (source : String) :
    (engine.run channel id source state).2 =
      ((channel.sendAll state (engine.callCell id source).sends).1,
        (engine.callCell id source).outcome.map fun _ => ()) := by
  change ((engine.lookUp id).1.executeAt channel (engine.lookUp id).2 source state).2 = _
  rw [executeAt]
  dsimp only
  split
  · rename_i hblank
    rw [callCell]
    rw [engine.evaluator.callCell_of_isEmpty hblank]
    rfl
  · rw [Evaluator.execute_eq_deliver, h.deliver_eq hstate]
    rfl

end Engine

end Cellbook
