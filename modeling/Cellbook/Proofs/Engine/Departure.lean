import Cellbook.Proofs.Channel.Limit
import Cellbook.Proofs.Engine.Framing
import Cellbook.Proofs.Engine.History

/-!
# Clients that go away

A client that goes away in the middle of a cell gets what was sent until then, and changes nothing
else: the cell asks the same of its evaluator and leaves the same environment as for a client that
stays, and it ends in the same way (`Engine.run_departed`).  Only a value that was to be shown and
could not be sent whole is reported, as a fault of the channel.

Printed texts and the value are lost in different ways.  Of printed texts the ones after the first
that fails are not sent at all, and the failure is forgotten; the sends of the value are made until
one fails, and the failure is kept.  On a channel that refuses every send after the first that it
refuses, the two come to the same for what is taken (`Limited.delivered_deliver`).
-/

namespace Cellbook

open Channel (Delivered Lasts lasts_none lasts_some_iff lasts_append_iff)

variable {ε κ ν σ τ α β : Type}

/-! ## Annotated environments

An evaluator may keep more in its environments than another and do the same otherwise. -/

/-- A call with another environment afterwards. -/
def Called.mapEnvironment (f : κ → ε) (called : Called κ α) : Called ε α :=
  ⟨f called.environment, called.printed, called.outcome⟩

theorem Called.mapEnvironment_bind (f : κ → ε) (called : Called κ α) {next : κ → α → Called κ β}
    {after : ε → α → Called ε β}
    (h : ∀ environment value,
      (next environment value).mapEnvironment f = after (f environment) value) :
    (called.bind next).mapEnvironment f = (called.mapEnvironment f).bind after := by
  rcases called with ⟨environment, printed, fault | value⟩
  · rfl
  · simp only [Called.bind, Called.mapEnvironment, ← h]

/-- Calls in sequence succeed if each of them does. -/
theorem Called.bind_outcome_eq_ok_iff {called : Called ε α} {next : ε → α → Called ε β} {b : β} :
    (called.bind next).outcome = .ok b ↔
      ∃ a, called.outcome = .ok a ∧ (next called.environment a).outcome = .ok b := by
  rcases called with ⟨environment, printed, fault | a⟩
  · exact ⟨nofun, fun ⟨_, hfault, _⟩ => nomatch hfault⟩
  · exact ⟨fun h => ⟨a, rfl, h⟩, fun ⟨_, ha, h⟩ => by cases ha; exact h⟩

/-- An evaluator that does the same as another, apart from what it keeps besides. -/
structure Evaluator.Annotates (annotated : Evaluator κ ν) (evaluator : Evaluator ε ν)
    (forget : κ → ε) : Prop where
  run_eq : ∀ environment source, (annotated.run environment source).mapEnvironment forget =
    evaluator.run (forget environment) source
  evaluate?_eq : ∀ environment source,
    (annotated.evaluate? environment source).mapEnvironment forget =
      evaluator.evaluate? (forget environment) source

/-- A cell comes to the same for an evaluator that keeps more. -/
theorem Evaluator.Annotates.callCell_eq {annotated : Evaluator κ ν} {evaluator : Evaluator ε ν}
    {forget : κ → ε} (h : annotated.Annotates evaluator forget) (parts : CellParts)
    (environment : κ) :
    (annotated.callCell parts environment).mapEnvironment forget =
      evaluator.callCell parts (forget environment) := by
  have hbody : (annotated.callBody parts.body environment).mapEnvironment forget =
      evaluator.callBody parts.body (forget environment) := by
    cases parts.body with
    | none => rfl
    | some source => exact h.run_eq environment source
  rw [Evaluator.callCell, Evaluator.callCell, ← hbody]
  refine Called.mapEnvironment_bind forget _ fun environment _ => ?_
  cases parts.tail with
  | none => rfl
  | some source =>
      dsimp only
      rw [Evaluator.callTail, Evaluator.callTail, ← h.evaluate?_eq]
      refine Called.mapEnvironment_bind forget _ fun environment value => ?_
      cases value with
      | some value => rfl
      | none =>
          dsimp only
          rw [← h.run_eq]
          exact Called.mapEnvironment_bind forget _ fun _ _ => rfl

/-! ## What is asked of an evaluator -/

/-- A call of an evaluator: the environment and the source text it is given. -/
inductive Request (ε : Type) where
  /-- To run a source text as statements. -/
  | run (environment : ε) (source : String)
  /-- To evaluate a source text as one expression. -/
  | evaluate (environment : ε) (source : String)

namespace Evaluator

/-- The evaluator that keeps what was asked of it, in order, beside the environment. -/
def traced (evaluator : Evaluator ε ν) : Evaluator (ε × List (Request ε)) ν where
  fresh := (evaluator.fresh, [])
  run traced source := (evaluator.run traced.1 source).mapEnvironment fun environment =>
    (environment, traced.2 ++ [.run traced.1 source])
  evaluate? traced source := (evaluator.evaluate? traced.1 source).mapEnvironment fun environment =>
    (environment, traced.2 ++ [.evaluate traced.1 source])

theorem annotates_traced (evaluator : Evaluator ε ν) :
    evaluator.traced.Annotates evaluator Prod.fst where
  run_eq _ _ := rfl
  evaluate?_eq _ _ := rfl

/-- What a cell asks of its evaluator, in order. -/
def requests (evaluator : Evaluator ε ν) (parts : CellParts) (environment : ε) : List (Request ε) :=
  (evaluator.traced.callCell parts (environment, [])).environment.2

/-- What is asked as a cell is executed does not depend on the channel.  To keep it changes nothing
else about the execution. -/
theorem execute_traced [Represent ν] (evaluator : Evaluator ε ν) (channel : Channel σ)
    (parts : CellParts) (environment : ε) (state : σ) :
    evaluator.traced.execute channel parts (environment, []) state =
      let executed := evaluator.execute channel parts environment state
      ⟨(executed.environment, evaluator.requests parts environment), executed.state,
        executed.outcome⟩ := by
  have hcell := evaluator.annotates_traced.callCell_eq parts (environment, [])
  simp only [execute_eq_deliver, requests, ← hcell]
  rcases evaluator.traced.callCell parts (environment, []) with
    ⟨⟨after, requests⟩, printed, ⟨fault⟩ | ⟨_ | value⟩⟩ <;> rfl

/-- The tail of a cell is evaluated, after a body that did not fail, and comes to a value. -/
structure Yields (evaluator : Evaluator ε ν) (parts : CellParts) (environment : ε) (value : ν) :
    Prop where
  body : (evaluator.callBody parts.body environment).outcome = .ok ()
  tail : ∃ source, parts.tail = some source ∧
    (evaluator.evaluate? (evaluator.callBody parts.body environment).environment source).outcome =
      .ok (some value)

/-- The value of a cell is that of its tail. -/
theorem callCell_outcome_iff (evaluator : Evaluator ε ν) (parts : CellParts) (environment : ε)
    (value : ν) :
    (evaluator.callCell parts environment).outcome = .ok (some value) ↔
      evaluator.Yields parts environment value := by
  rw [callCell, Called.bind_outcome_eq_ok_iff]
  constructor
  · rintro ⟨⟨⟩, hbody, h⟩
    cases htail : parts.tail with
    | none =>
        rw [htail] at h
        cases h
    | some source =>
        rw [htail] at h
        obtain ⟨result, hresult, hvalue⟩ := Called.bind_outcome_eq_ok_iff.mp h
        cases result with
        | some result =>
            cases hvalue
            exact ⟨hbody, source, htail, hresult⟩
        | none =>
            obtain ⟨_, _, hnone⟩ := Called.bind_outcome_eq_ok_iff.mp hvalue
            cases hnone
  · rintro ⟨hbody, source, htail, hvalue⟩
    refine ⟨(), hbody, ?_⟩
    rw [htail]
    exact Called.bind_outcome_eq_ok_iff.mpr ⟨some value, hvalue, rfl⟩

end Evaluator

/-! ## Delivery on limited channels -/

/-- What is shown of a value is sent, unless the value is absent. -/
theorem sends_encode_eq_nil_iff [Represent ν] (value : ν) :
    (encode value).sends = [] ↔ (represent value).absent = true := by
  rw [← encode_eq_absent_iff]
  cases encode value with
  | absent => exact ⟨fun _ => rfl, fun _ => rfl⟩
  | textual text => exact ⟨nofun, nofun⟩
  | bundle shown => exact ⟨nofun, nofun⟩

/-- A value is to be shown, and not all that is sent of the cell is taken. -/
def Called.Lost [Represent ν] (called : Called ε (Option ν)) (left : Option Nat) : Prop :=
  (∃ value, called.outcome = .ok (some value) ∧ (represent value).absent = false) ∧
    ¬ Lasts left called.sends

namespace Channel.Limited

variable {channel : Channel σ} {record : σ → List Bytes} {left : σ → Option Nat}

/-- A printing that is broken is one whose channel takes no more sends. -/
theorem delivered_print (h : channel.Limited record left) {printing : Printing σ}
    (hbroken : printing.broken = true → left printing.state = some 0) (text : String) :
    Delivered record left printing.state [Text.encode (frame text)]
        (printing.print channel text).state ∧
      ((printing.print channel text).broken = true →
        left (printing.print channel text).state = some 0) := by
  rcases printing with ⟨state, broken⟩
  cases broken with
  | true => exact ⟨.ended (hbroken rfl) _, hbroken⟩
  | false =>
      rw [Printing.print, if_neg Bool.false_ne_true, sendText]
      by_cases hleft : left state = some 0
      · obtain ⟨after, fault, hsend, hdelivered, hended⟩ :=
          h.send_of_ended hleft (Text.encode (frame text))
        rw [hsend]
        exact ⟨hdelivered, fun _ => hended⟩
      · obtain ⟨after, hsend, hdelivered⟩ :=
          h.send_of_not_ended hleft (Text.encode (frame text))
        rw [hsend]
        exact ⟨hdelivered, fun htrue => absurd htrue Bool.false_ne_true⟩

/-- Of printed texts as many frames are taken as the channel takes. -/
theorem delivered_printAll (h : channel.Limited record left) (printing : Printing σ)
    (hbroken : printing.broken = true → left printing.state = some 0) (texts : List String) :
    Delivered record left printing.state (texts.map fun text => Text.encode (frame text))
      (printing.printAll channel texts).state := by
  induction texts generalizing printing with
  | nil => exact .refl printing.state
  | cons text texts ih =>
      obtain ⟨hfirst, hbroken⟩ := h.delivered_print hbroken text
      exact hfirst.trans (ih _ hbroken)

/-- Of what a cell sends as much is taken as the channel takes. -/
theorem delivered_deliver [Represent ν] (h : channel.Limited record left)
    (called : Called ε (Option ν)) (state : σ) :
    Delivered record left state called.sends (called.deliver channel ⟨state, false⟩).state := by
  have hprinted := h.delivered_printAll ⟨state, false⟩ nofun called.printed
  rcases called with ⟨environment, printed, ⟨fault⟩ | ⟨_ | value⟩⟩
  · exact hprinted.trans (.refl _)
  · exact hprinted.trans (.refl _)
  · exact hprinted.trans (h.delivered_sendAll _ _).1

/-- A cell ends as it does by itself, unless its value is lost. -/
theorem outcome_deliver [Represent ν] (h : channel.Limited record left)
    (called : Called ε (Option ν)) (state : σ) :
    let outcome := (called.deliver channel ⟨state, false⟩).outcome
    (called.Lost (left state) → ∃ fault, outcome = .error (.channel fault)) ∧
      (¬ called.Lost (left state) → outcome = called.outcome.map fun _ => ()) := by
  intro outcome
  have hprinted := h.delivered_printAll ⟨state, false⟩ nofun called.printed
  rcases called with ⟨environment, printed, ⟨fault⟩ | ⟨_ | value⟩⟩
  · exact ⟨fun ⟨⟨_, hvalue, _⟩, _⟩ => (nomatch hvalue), fun _ => rfl⟩
  · exact ⟨fun ⟨⟨_, hvalue, _⟩, _⟩ => (nomatch hvalue), fun _ => rfl⟩
  · obtain ⟨-, hsent⟩ := h.delivered_sendAll
      ((⟨state, false⟩ : Printing σ).printAll channel printed).state (encode value).sends
    have houtcome : outcome = (channel.sendAll
        ((⟨state, false⟩ : Printing σ).printAll channel printed).state
        (encode value).sends).2.mapError .channel := rfl
    rw [hprinted.left_eq] at hsent
    rw [houtcome]
    by_cases habsent : (represent value).absent = true
    · -- Nothing is sent of an absent value, so its sends succeed on any channel.
      have hnil := (sends_encode_eq_nil_iff value).mpr habsent
      refine ⟨?_, fun _ => by rw [hnil]; rfl⟩
      rintro ⟨⟨shown, hshown, hpresent⟩, -⟩
      cases hshown
      exact absurd habsent (hpresent ▸ Bool.false_ne_true)
    · have hne : (encode value).sends ≠ [] := mt (sends_encode_eq_nil_iff value).mp habsent
      have hlasts := hsent.trans (lasts_append_iff hne).symm
      constructor
      · rintro ⟨-, hlost⟩
        cases hresult : (channel.sendAll
            ((⟨state, false⟩ : Printing σ).printAll channel printed).state
            (encode value).sends).2 with
        | error fault => exact ⟨fault, rfl⟩
        | ok => exact absurd (hlasts.mp hresult) hlost
      · intro hkept
        have hall : Lasts (left state) (Called.sends ⟨environment, printed, .ok (some value)⟩) :=
          not_not.mp fun hlost =>
            hkept ⟨⟨value, rfl, Bool.eq_false_iff.mpr habsent⟩, hlost⟩
        rw [hlasts.mpr hall]
        rfl

end Channel.Limited

/-! ## Runs -/

namespace Engine

variable (engine : Engine ε ν)

/-- A run that asks these of its evaluator, in order: the same run, with them kept, is the same but
for them. -/
def Asks [Represent ν] (channel : Channel σ) (id : NotebookId) (source : String) (state : σ)
    (requests : List (Request ε)) : Prop :=
  let parts := CellParts.ofSource source
  let executed := engine.evaluator.execute channel parts (engine.environmentOf id) state
  engine.evaluator.traced.execute channel parts (engine.environmentOf id, []) state =
    ⟨(executed.environment, requests), executed.state, executed.outcome⟩

/-- A run whose tail comes to a value that is to be shown. -/
def Shows [Represent ν] (id : NotebookId) (source : String) : Prop :=
  ∃ value, engine.evaluator.Yields (CellParts.ofSource source) (engine.environmentOf id) value ∧
    (represent value).absent = false

/-- How a run for a client that went away after `taken` sends, `gone`, differs from one for a client
that stayed, `stayed`, which made `sends`. -/
structure Departed [Represent ν] (id : NotebookId) (source : String) (taken : Nat)
    (sends : List Bytes) (stayed gone : Engine ε ν × Except CellFault Unit) : Prop where
  /-- The environments are the same afterwards. -/
  engine_eq : gone.1 = stayed.1
  /-- A value that was to be shown and was not sent whole is a fault of the channel. -/
  lost : stayed.2 = .ok () → engine.Shows id source → taken < sends.length →
    ∃ fault, gone.2 = .error (.channel fault)
  /-- In all other cases the run ends in the same way. -/
  kept : ¬ (stayed.2 = .ok () ∧ engine.Shows id source ∧ taken < sends.length) →
    gone.2 = stayed.2

/-- A run on a limited channel delivers of the sends of the cell as many as are taken, and ends as
the cell does unless its value is lost. -/
theorem run_limited [Represent ν] {channel : Channel σ} {record : σ → List Bytes}
    {left : σ → Option Nat} (h : channel.Limited record left) (id : NotebookId) (source : String)
    (state : σ) :
    let cell := engine.callCell id source
    let ran := engine.run channel id source state
    ran.1 = (engine.lookUp id).1.setEnvironment (engine.lookUp id).2 cell.environment ∧
      Delivered record left state cell.sends ran.2.1 ∧
      (cell.Lost (left state) → ∃ fault, ran.2.2 = .error (.channel fault)) ∧
      (¬ cell.Lost (left state) → ran.2.2 = cell.outcome.map fun _ => ()) := by
  intro cell ran
  have hran : ran = ((engine.lookUp id).1.setEnvironment (engine.lookUp id).2 cell.environment,
      (cell.deliver channel ⟨state, false⟩).state,
      (cell.deliver channel ⟨state, false⟩).outcome) := by
    rw [← cell.deliver_environment channel ⟨state, false⟩]
    exact engine.run_eq channel id source state
  rw [hran]
  exact ⟨rfl, h.delivered_deliver cell state, h.outcome_deliver cell state⟩

/-- A client that goes away never changes what a cell does.  Of what the cell sends to a client that
stays, one that goes away after `n` sends gets the first `n`. -/
theorem run_departed [Represent ν] {whole : Channel σ} {cut : Channel τ}
    {record : σ → List Bytes} {left : σ → Option Nat} {record' : τ → List Bytes}
    {left' : τ → Option Nat} (hwhole : whole.Limited record left)
    (hcut : cut.Limited record' left') (id : NotebookId) (source : String) (state : σ) (state' : τ)
    (n : Nat) (hstate : left state = none) (hstate' : left' state' = some n) :
    let stayed := engine.run whole id source state
    let gone := engine.run cut id source state'
    ∃ sends, record stayed.2.1 = record state ++ sends ∧
      record' gone.2.1 = record' state' ++ sends.take n ∧
      engine.Departed id source n sends (stayed.1, stayed.2.2) (gone.1, gone.2.2) ∧
      ∃ requests, engine.Asks whole id source state requests ∧
        engine.Asks cut id source state' requests := by
  intro stayed gone
  obtain ⟨hengine, hdelivered, -, houtcome⟩ := engine.run_limited hwhole id source state
  obtain ⟨hengine', hdelivered', hlost', hkept'⟩ := engine.run_limited hcut id source state'
  have hstayed : stayed.2.2 = (engine.callCell id source).outcome.map fun _ => () :=
    houtcome fun hlost => hlost.2 (hstate ▸ lasts_none _)
  have hlost : (engine.callCell id source).Lost (left' state') ↔ stayed.2.2 = .ok () ∧
      engine.Shows id source ∧ n < (engine.callCell id source).sends.length := by
    rw [Called.Lost, hstate', lasts_some_iff, Nat.not_le, ← and_assoc]
    refine and_congr_left fun _ => ?_
    constructor
    · rintro ⟨value, hvalue, hpresent⟩
      refine ⟨by rw [hstayed, hvalue]; rfl, value, ?_, hpresent⟩
      exact (engine.evaluator.callCell_outcome_iff _ _ value).mp hvalue
    · rintro ⟨-, value, hyields, hpresent⟩
      exact ⟨value, (engine.evaluator.callCell_outcome_iff _ _ value).mpr hyields, hpresent⟩
  refine ⟨(engine.callCell id source).sends, ?_, ?_, ⟨?_, ?_, ?_⟩, _,
    engine.evaluator.execute_traced whole _ _ state, engine.evaluator.execute_traced cut _ _ state'⟩
  · rw [hdelivered.record_eq, hstate]
    rfl
  · rw [hdelivered'.record_eq, hstate']
    rfl
  · exact hengine'.trans hengine.symm
  · exact fun hok hshows hshort => hlost' (hlost.mpr ⟨hok, hshows, hshort⟩)
  · exact fun hkept => (hkept' (mt hlost.mp hkept)).trans hstayed.symm

/-- A cell that prints one text and shows one value, for a client that goes away between the two. -/
theorem run_departed_echo :
    let engine := Engine.new Evaluator.echo
    let id : NotebookId := ⟨"a.unb", by decide⟩
    let gone := engine.run Recorder.channel id "one\ntwo\nthree" (.empty (some 1))
    gone.2.1.sends = [Text.encode "\"one\\ntwo\"\n"] ∧
      ∃ fault, gone.2.2 = .error (.channel fault) := by
  intro engine id gone
  obtain ⟨sends, hstayed, hgone, hdeparted, -⟩ :=
    engine.run_departed Recorder.limited_channel Recorder.limited_channel id "one\ntwo\nthree"
      (.empty none) (.empty (some 1)) 1 rfl rfl
  have hparts : CellParts.ofSource "one\ntwo\nthree" = ⟨some "one\ntwo", some "three"⟩ := by decide
  have hsends : sends = [Text.encode "\"one\\ntwo\"\n", Text.encode "\"\\\"three\\\"\""] := by
    refine hstayed.symm.trans ?_
    decide
  have hshows : engine.Shows id "one\ntwo\nthree" := by
    refine ⟨"three", ?_, rfl⟩
    rw [hparts]
    exact ⟨rfl, "three", rfl, rfl⟩
  subst hsends
  exact ⟨hgone, hdeparted.lost (by decide) hshows (by decide)⟩

end Engine

end Cellbook
