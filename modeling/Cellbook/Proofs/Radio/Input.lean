import Cellbook.Proofs.Engine.Departure
import Cellbook.Proofs.Radio.Outlet
import Cellbook.Proofs.Text.Utf8
import Mathlib.Data.List.DropRight

/-!
# Input over the radio

A central may cut the input of a script into as many writes as it likes, and anywhere, inside a
character too.  The input is decoded when it is run and not before, and until then a REPL holds just
the octets of its writes, one after another (`input_of_session`).

What a session has gathered is read off its callbacks: START, RUN and the loss of the central drop
what was written before, and nothing else does (`gathered`).  So however the same octets are cut,
the REPL is left alike, and the next RUN executes the same text in the same environment
(`executes_gathered`).
-/

namespace Cellbook.Radio

variable {ε ν γ γ' δ : Type}

/-! ## What callbacks bring -/

namespace Callback

/-- Whether a callback drops the input gathered before it, as START, RUN and the loss of the central
do. -/
def dropsInput : Callback → Bool
  | .write octets =>
    octets.head? == some Command.start.octet || octets.head? == some Command.run.octet
  | .disconnect => true
  | .connect | .advertise => false

/-- The input that a callback brings. -/
def payload : Callback → Bytes
  | .write octets => if octets.head? == some Command.writeInput.octet then octets.drop 1 else []
  | .connect | .disconnect | .advertise => []

end Callback

/-- The input written since the last callback that drops it. -/
def gathered (callbacks : List Callback) : Bytes :=
  (callbacks.rtakeWhile fun callback => !callback.dropsInput).flatMap Callback.payload

theorem gathered_concat (callbacks : List Callback) (callback : Callback) :
    gathered (callbacks ++ [callback]) =
      if callback.dropsInput then [] else gathered callbacks ++ callback.payload := by
  rw [gathered, List.rtakeWhile_concat]
  cases callback.dropsInput <;> simp [gathered]

/-! ## The input of a REPL -/

namespace Repl

variable (server : GattServer γ) (evaluator : Evaluator ε ν) (repl : Repl ε γ δ)

theorem input_print (text : String) : (repl.print server text).input = repl.input := by
  refine foldl_keeps input ?_ repl (repl.routing.write thread stream text)
  rintro repl ⟨_ | destination, text⟩ <;> rfl

/-- A script takes all the input with it. -/
theorem input_run : (repl.run server evaluator).1.input = [] :=
  (congrArg input (repl.offline_run server evaluator)).trans
    (foldl_keeps input (input_print server) { repl with input := [] } _)

/-- What a write does to the input, by its first octet. -/
theorem input_handleWrite (octets : Bytes) :
    (repl.handleWrite server evaluator octets).1.input =
      if (Callback.write octets).dropsInput then []
      else repl.input ++ (Callback.write octets).payload := by
  cases octets with
  | nil => exact (List.append_nil _).symm
  | cons b payload =>
      cases hcommand : Command.ofOctet? b with
      | some command =>
          obtain rfl := Command.ofOctet?_eq_some_iff.mp hcommand
          cases command with
          | start => rfl
          | writeInput => rfl
          | run => exact input_run server evaluator repl
          | stop => exact (List.append_nil _).symm
      | none =>
          have hother (command : Command) : b ≠ command.octet := fun h =>
            Option.some_ne_none command
              ((Command.ofOctet?_eq_some_iff.mpr h).symm.trans hcommand)
          simp [handleWrite, hcommand, tell, Callback.dropsInput, Callback.payload, hother]

/-- What a callback does to the input. -/
theorem input_perform (callback : Callback) :
    (repl.perform server evaluator callback).1.input =
      if callback.dropsInput then [] else repl.input ++ callback.payload := by
  cases callback with
  | write octets => exact input_handleWrite server evaluator repl octets
  | connect => exact (List.append_nil _).symm
  | disconnect => rfl
  | advertise => exact (List.append_nil _).symm

end Repl

/-- The input of a REPL is what its callbacks have gathered, whatever its radio does. -/
theorem input_of_session {server : GattServer γ} {evaluator : Evaluator ε ν}
    {first repl : Repl ε γ δ} {callbacks : List Callback} (hfirst : first.input = [])
    (h : Session server evaluator first callbacks repl) : repl.input = gathered callbacks := by
  induction h with
  | start => exact hfirst
  | callback h callback ih => rw [Repl.input_perform, gathered_concat, ih]
  | radio h radio ih => exact ih

/-! ## Cuts of an input -/

/-- A way of cutting octets into writes of input, with writes of no command between them. -/
inductive Cut : Bytes → List Callback → Prop
  | nil : Cut [] []
  /-- The next piece, which may be empty. -/
  | piece (payload : Bytes) {octets : Bytes} {callbacks : List Callback}
      (h : Cut octets callbacks) :
      Cut (payload ++ octets) (.write (Command.writeInput.octet :: payload) :: callbacks)
  /-- A write whose first octet is no command's, or an empty one. -/
  | unknown {other octets : Bytes} {callbacks : List Callback}
      (hother : ∀ command : Command, other.head? ≠ some command.octet)
      (h : Cut octets callbacks) : Cut octets (.write other :: callbacks)

/-- Out of reach of a central, octets are added to the input however they are cut. -/
theorem Cut.foldl_perform {octets : Bytes} {callbacks : List Callback} (h : Cut octets callbacks)
    (evaluator : Evaluator ε ν) (repl : Repl ε Unit δ) :
    callbacks.foldl (fun repl callback => (repl.perform Repl.outOfReach evaluator callback).1)
        repl =
      { repl with input := repl.input ++ octets } := by
  induction h generalizing repl with
  | nil => rw [List.append_nil, List.foldl_nil]
  | piece payload h ih =>
      rw [← List.append_assoc]
      exact ih { repl with input := repl.input ++ payload }
  | unknown hother h ih =>
      have hkept : (repl.handleWrite Repl.outOfReach evaluator _).1 = repl :=
        repl.offline_handleWrite_of_forall_ne Repl.outOfReach evaluator hother
      rw [List.foldl_cons, Repl.perform, hkept, ih]

/-- After the same callbacks and two cuts of the same octets two REPLs are alike. -/
theorem Cut.alike {server : GattServer γ} {server' : GattServer γ'}
    {evaluator : Evaluator ε ν} {first repl : Repl ε γ δ} {first' repl' : Repl ε γ' δ}
    {octets : Bytes} {earlier pieces pieces' : List Callback} (hfirst : Alike first first')
    (h : Cut octets pieces) (h' : Cut octets pieces')
    (hsession : Session server evaluator first (earlier ++ pieces) repl)
    (hsession' : Session server' evaluator first' (earlier ++ pieces') repl') :
    Alike repl repl' := by
  rw [alike_iff_offline_eq] at hfirst ⊢
  rw [hsession.offline_eq, hsession'.offline_eq, List.foldl_append, List.foldl_append,
    h.foldl_perform, h'.foldl_perform, hfirst]

theorem Cut.gathered_append {octets : Bytes} {pieces : List Callback} (h : Cut octets pieces)
    (earlier : List Callback) : gathered (earlier ++ pieces) = gathered earlier ++ octets := by
  induction h generalizing earlier with
  | nil => rw [List.append_nil, List.append_nil]
  | piece payload h ih =>
      rw [List.append_cons, ih, gathered_concat]
      exact List.append_assoc _ payload _
  | @unknown other _ _ hother h ih =>
      have hdrops : (Callback.write other).dropsInput = false := by
        simp [Callback.dropsInput, hother]
      have hpayload : (Callback.write other).payload = [] := by
        simp [Callback.payload, hother]
      rw [List.append_cons, ih, gathered_concat, hdrops, hpayload, List.append_nil]
      rfl

/-! ## What a RUN executes -/

namespace Repl

/-- A REPL that keeps what is asked of its evaluator from now on. -/
def traced (repl : Repl ε γ δ) : Repl (ε × List (Request ε)) γ δ :=
  { repl with environment := (repl.environment, []) }

/-- A RUN executes a text, once and nothing else, in the environment of a REPL, and leaves the
environment that this leaves. -/
structure Executes (server : GattServer γ) (evaluator : Evaluator ε ν) (repl : Repl ε γ δ)
    (text : String) : Prop where
  environment_eq (payload : Bytes) :
    (repl.perform server evaluator (.write (Command.run.octet :: payload))).1.environment =
      (evaluator.run repl.environment text).environment
  asks (payload : Bytes) :
    (repl.traced.perform server evaluator.traced
      (.write (Command.run.octet :: payload))).1.environment.2 = [.run repl.environment text]

variable (server : GattServer γ) (evaluator : Evaluator ε ν) (repl : Repl ε γ δ)

theorem environment_run : (repl.run server evaluator).1.environment =
    (evaluator.run repl.environment (Text.decodeLossy repl.input)).environment :=
  congrArg environment (repl.offline_run server evaluator)

/-- A RUN executes what the whole input spells. -/
theorem executes_input : repl.Executes server evaluator (Text.decodeLossy repl.input) where
  environment_eq _ := repl.environment_run server evaluator
  asks _ := congrArg Prod.snd (repl.traced.environment_run server evaluator.traced)

end Repl

/-- The input of a REPL is what its callbacks have written since the last of them that drops it.
However the same octets are cut into writes, with writes of no command between them, and whatever
the radio does meanwhile, the next RUN executes the text that all the octets gathered spell, and
leaves the REPL alike. -/
theorem executes_gathered {server : GattServer γ} {server' : GattServer γ'}
    {evaluator : Evaluator ε ν} {first : Repl ε γ δ} {first' : Repl ε γ' δ}
    (hfirst : Alike first first') (hinput : first.input = []) :
    (∀ {callbacks : List Callback} {repl : Repl ε γ δ},
      Session server evaluator first callbacks repl → repl.input = gathered callbacks) ∧
    ∀ (earlier : List Callback) {octets : Bytes} {pieces pieces' : List Callback}
      {repl : Repl ε γ δ} {repl' : Repl ε γ' δ}, Cut octets pieces → Cut octets pieces' →
      Session server evaluator first (earlier ++ pieces) repl →
      Session server' evaluator first' (earlier ++ pieces') repl' →
      let bytes := gathered earlier ++ octets
      let text := Text.decodeLossy bytes
      repl.input = bytes ∧ repl'.input = bytes ∧
        (∀ whole, bytes = Text.encode whole → text = whole) ∧
        repl.Executes server evaluator text ∧ repl'.Executes server' evaluator text ∧
        ∀ payload payload',
          Alike (repl.perform server evaluator (.write (Command.run.octet :: payload))).1
            (repl'.perform server' evaluator (.write (Command.run.octet :: payload'))).1 := by
  refine ⟨input_of_session hinput, ?_⟩
  intro earlier octets pieces pieces' repl repl' hcut hcut' hsession hsession' bytes text
  have halike : Alike repl repl' := hcut.alike hfirst hcut' hsession hsession'
  have hbytes : repl.input = bytes :=
    (input_of_session hinput hsession).trans (hcut.gathered_append earlier)
  have hbytes' : repl'.input = bytes := halike.input_eq.symm.trans hbytes
  have htext : Text.decodeLossy repl.input = text := congrArg Text.decodeLossy hbytes
  have htext' : Text.decodeLossy repl'.input = text := congrArg Text.decodeLossy hbytes'
  refine ⟨hbytes, hbytes', fun whole hwhole => ?_, ?_, ?_, fun payload payload' => ?_⟩
  · exact (congrArg Text.decodeLossy hwhole).trans (Text.decodeLossy_encode whole)
  · exact htext ▸ repl.executes_input server evaluator
  · exact htext' ▸ repl'.executes_input server' evaluator
  · rw [alike_iff_offline_eq] at halike ⊢
    rw [Repl.offline_perform, Repl.offline_perform, halike]
    rfl

/-- A character of two octets that comes in one write, and one that is cut in two by a write of no
command: the same text is run. -/
theorem executes_gathered_character :
    let server := SimulatedRadio.server
    let first : Repl Nat SimulatedRadio Unit :=
      .new Evaluator.echo {} (.start fun _ => .elsewhere ()) "a"
    let whole : List Callback := [.write [0x06, 0xc2, 0xb5]]
    let halves : List Callback := [.write [0x06, 0xc2], .write [0x01], .write [0x06, 0xb5]]
    ∃ repl repl' : Repl Nat SimulatedRadio Unit,
      Session server Evaluator.echo first (.write [0x02] :: whole) repl ∧
      Session server Evaluator.echo first (.write [0x02] :: halves) repl' ∧
      repl.Executes server Evaluator.echo "µ" ∧ repl'.Executes server Evaluator.echo "µ" := by
  intro server first whole halves
  have hunknown : ∀ command : Command, [0x01].head? ≠ some command.octet := by
    intro command
    cases command <;> decide
  have hwhole : Cut [0xc2, 0xb5] whole := Cut.nil.piece [0xc2, 0xb5]
  have hhalves : Cut [0xc2, 0xb5] halves := .piece [0xc2] (.unknown hunknown (Cut.nil.piece [0xb5]))
  have hsession : Session server Evaluator.echo first (.write [0x02] :: whole) _ :=
    (Session.start.callback (.write [0x02])).callback (.write [0x06, 0xc2, 0xb5])
  have hsession' : Session server Evaluator.echo first (.write [0x02] :: halves) _ :=
    (((Session.start.callback (.write [0x02])).callback (.write [0x06, 0xc2])).callback
      (.write [0x01])).callback (.write [0x06, 0xb5])
  have hfirst : Alike first first := ⟨rfl, rfl, rfl, rfl, rfl, rfl, rfl⟩
  obtain ⟨-, -, -, hexecutes, hexecutes', -⟩ :=
    (executes_gathered hfirst rfl).2 [.write [0x02]] hwhole hhalves hsession hsession'
  have htext : Text.decodeLossy (gathered [.write [0x02]] ++ [0xc2, 0xb5]) = "µ" := by decide
  rw [htext] at hexecutes hexecutes'
  exact ⟨_, _, hsession, hsession', hexecutes, hexecutes'⟩

end Cellbook.Radio
