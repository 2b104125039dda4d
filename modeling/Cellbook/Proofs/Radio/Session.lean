import Cellbook.Proofs.Engine.Course
import Cellbook.Radio.Repl
import Cellbook.Radio.Simulated

/-!
# Sessions over the radio

A session is a REPL that is called back by its transport, one callback after another, while its
radio does as it likes: the central comes and goes, and notifications and advertising fail or not.

The radio never influences the protocol.  `Repl.offline` is all of a REPL but its radio, and a
callback does to it what it does to a REPL that no central can reach (`Repl.offline_perform`): no
change of state stands after a notification that may fail.  So in two sessions with the same
callbacks and any two radios, the REPLs stay alike (`alike_of_session`).
-/

namespace Cellbook.Radio

variable {ε ν γ γ' δ : Type}

/-! ## Callbacks -/

/-- What the transport may call a REPL back for. -/
inductive Callback where
  /-- The central has written to the characteristic. -/
  | write (octets : Bytes)
  /-- A central has connected. -/
  | connect
  /-- The central is gone. -/
  | disconnect
  /-- The service is to be advertised. -/
  | advertise

namespace Repl

/-- Does what the transport calls back for. -/
def perform (server : GattServer γ) (evaluator : Evaluator ε ν) (repl : Repl ε γ δ) :
    Callback → Radioed ε γ δ
  | .write octets => repl.handleWrite server evaluator octets
  | .connect => (repl.onConnect, .ok ())
  | .disconnect => repl.onDisconnect server
  | .advertise => repl.startAdvertising server

/-! ## REPLs without a radio -/

/-- All of a REPL but its radio. -/
def offline (repl : Repl ε γ δ) : Repl ε Unit δ := { repl with radio := () }

/-- The radio that no central can reach. -/
def outOfReach : GattServer Unit :=
  ⟨fun _ => ((), false), fun _ _ => ((), .ok ()), fun _ _ => ((), .ok ())⟩

variable (server : GattServer γ) (evaluator : Evaluator ε ν) (repl : Repl ε γ δ)

/-- Whatever the central is told, and whether or not it can be told, only the radio changes. -/
@[simp] theorem offline_tell (text : String) : (repl.tell server text).1.offline = repl.offline :=
  rfl

theorem offline_deliver (delivery : Destination δ × String) :
    (deliver server repl delivery).offline = deliver outOfReach repl.offline delivery := by
  rcases delivery with ⟨_ | destination, text⟩ <;> rfl

theorem offline_print (text : String) :
    (repl.print server text).offline = repl.offline.print outOfReach text :=
  (List.foldl_hom offline fun repl delivery => (offline_deliver server repl delivery).symm).symm

theorem offline_printAll (texts : List String) :
    (texts.foldl (print server) repl).offline = texts.foldl (print outOfReach) repl.offline :=
  (List.foldl_hom offline fun repl text => (offline_print server repl text).symm).symm

/-- A REPL after a script, before the central is told how it ended: what the script printed is
printed, and its environment is left. -/
def afterScript : Repl ε γ δ :=
  let called := evaluator.run repl.environment (Text.decodeLossy repl.input)
  { called.printed.foldl (print server) { repl with input := [] } with
    environment := called.environment }

theorem offline_afterScript :
    (repl.afterScript server evaluator).offline =
      repl.offline.afterScript outOfReach evaluator := by
  have hprinted := offline_printAll server { repl with input := [] }
    (evaluator.run repl.environment (Text.decodeLossy repl.input)).printed
  exact congrArg (fun printed : Repl ε Unit δ => { printed with
    environment := (evaluator.run repl.environment (Text.decodeLossy repl.input)).environment })
    hprinted

/-- However a script ends, and whatever the central can be told of that, only the radio changes. -/
theorem offline_run :
    (repl.run server evaluator).1.offline = (repl.afterScript server evaluator).offline := by
  -- Once the script has ended, a run only tells: the prompt, or a report and then the prompt.
  rw [run]
  split
  · rfl
  · next fault _ =>
      have hreport := offline_tell server (repl.afterScript server evaluator) (failureReport fault)
      split
      · next hresult => exact (congrArg (fun told => told.1.offline) hresult).symm.trans hreport
      · exact hreport

theorem offline_captureOutput : repl.captureOutput.offline = repl.offline.captureOutput := by
  simp only [captureOutput, offline]
  split <;> rfl

/-- A callback does to a REPL, apart from its radio, what it does where no central is in reach. -/
theorem offline_perform (callback : Callback) :
    (repl.perform server evaluator callback).1.offline =
      (repl.offline.perform outOfReach evaluator callback).1 := by
  cases callback with
  | connect => rfl
  | disconnect => rfl
  | advertise => rfl
  | write octets =>
      simp only [perform, handleWrite]
      split
      · rw [start, offline_tell]
        exact congrArg (fun repl : Repl ε Unit δ => { repl with input := [] })
          (offline_captureOutput repl)
      · rfl
      · show (repl.run server evaluator).1.offline =
          (repl.offline.run outOfReach evaluator).1.offline
        rw [offline_run, offline_run, offline_afterScript, offline_afterScript]
        rfl
      · rfl
      · rfl

end Repl

/-! ## Sessions -/

/-- A REPL that is called back for each of the callbacks, in order, from where it is at first.  Its
radio may change in any way between them. -/
inductive Session (server : GattServer γ) (evaluator : Evaluator ε ν) (first : Repl ε γ δ) :
    List Callback → Repl ε γ δ → Prop
  | start : Session server evaluator first [] first
  | callback {callbacks : List Callback} {repl : Repl ε γ δ}
      (h : Session server evaluator first callbacks repl) (callback : Callback) :
      Session server evaluator first (callbacks ++ [callback])
        (repl.perform server evaluator callback).1
  | radio {callbacks : List Callback} {repl : Repl ε γ δ}
      (h : Session server evaluator first callbacks repl) (radio : γ) :
      Session server evaluator first callbacks { repl with radio := radio }

/-- Apart from the radio, a session comes to what its callbacks come to where no central is
in reach. -/
theorem Session.offline_eq {server : GattServer γ} {evaluator : Evaluator ε ν}
    {first repl : Repl ε γ δ} {callbacks : List Callback}
    (h : Session server evaluator first callbacks repl) :
    repl.offline = callbacks.foldl
      (fun repl callback => (repl.perform Repl.outOfReach evaluator callback).1) first.offline := by
  induction h with
  | start => rfl
  | callback h callback ih =>
      rw [Repl.offline_perform, ih, List.foldl_append]
      rfl
  | radio h radio ih => exact ih

/-- Two REPLs, with any two radios, that differ in nothing but the radio. -/
structure Alike (repl : Repl ε γ δ) (other : Repl ε γ' δ) : Prop where
  state_eq : repl.state = other.state
  input_eq : repl.input = other.input
  environment_eq : repl.environment = other.environment
  /-- Printed text goes to the same destination, the central or the original one. -/
  routing_eq : repl.routing = other.routing
  saved_eq : repl.saved = other.saved
  /-- The same texts went to destinations other than the central. -/
  written_eq : repl.written = other.written
  deviceName_eq : repl.deviceName = other.deviceName

theorem alike_iff_offline_eq {repl : Repl ε γ δ} {other : Repl ε γ' δ} :
    Alike repl other ↔ repl.offline = other.offline := by
  constructor
  · rintro ⟨hstate, hinput, henvironment, hrouting, hsaved, hwritten, hname⟩
    simp only [Repl.offline, hstate, hinput, henvironment, hrouting, hsaved, hwritten, hname]
  · intro h
    exact ⟨congrArg Repl.state h, congrArg Repl.input h, congrArg Repl.environment h,
      congrArg Repl.routing h, congrArg Repl.saved h, congrArg Repl.written h,
      congrArg Repl.deviceName h⟩

/-- Two REPLs that start alike and are called back for the same are alike after every callback,
whatever radios they have and whatever the two radios do. -/
theorem alike_of_session {server : GattServer γ} {server' : GattServer γ'}
    {evaluator : Evaluator ε ν} {first repl : Repl ε γ δ} {first' repl' : Repl ε γ' δ}
    {callbacks : List Callback} (h : Alike first first')
    (hsession : Session server evaluator first callbacks repl)
    (hsession' : Session server' evaluator first' callbacks repl') : Alike repl repl' := by
  rw [alike_iff_offline_eq] at h ⊢
  rw [hsession.offline_eq, hsession'.offline_eq, h]

/-- A radio whose notifications and advertising all fail, and one with no central: with both the
script has run, its input is gone, and the text it printed went to the central alone. -/
theorem alike_of_session_simulated :
    let callbacks : List Callback :=
      [.write [0x02], .write [0x06, 0x78], .write [0x04], .disconnect]
    let routing : Output.Routing (Destination Unit) := .start fun _ => .elsewhere ()
    let failing : SimulatedRadio := { budget := some 0, advertiseReport := some "radio off" }
    let absent : SimulatedRadio := { connected := false }
    ∃ repl repl' : Repl Nat SimulatedRadio Unit,
      Session SimulatedRadio.server Evaluator.echo (.new Evaluator.echo failing routing "a")
        callbacks repl ∧
      Session SimulatedRadio.server Evaluator.echo (.new Evaluator.echo absent routing "a")
        callbacks repl' ∧
      Alike repl repl' ∧ repl.environment = 1 ∧ repl.input = [] ∧ repl.written = [] := by
  intro callbacks routing failing absent
  have hsession (radio : SimulatedRadio) : ∃ repl, Session SimulatedRadio.server Evaluator.echo
      (.new Evaluator.echo radio routing "a") callbacks repl :=
    ⟨_, (((Session.start.callback (.write [0x02])).callback (.write [0x06, 0x78])).callback
      (.write [0x04])).callback .disconnect⟩
  obtain ⟨repl, h⟩ := hsession failing
  obtain ⟨repl', h'⟩ := hsession absent
  have hfirst : Alike (Repl.new (δ := Unit) Evaluator.echo failing routing "a")
      (Repl.new Evaluator.echo absent routing "a") := ⟨rfl, rfl, rfl, rfl, rfl, rfl, rfl⟩
  refine ⟨repl, repl', h, h', alike_of_session hfirst h h', ?_, ?_, ?_⟩
  · exact congrArg Repl.environment h.offline_eq
  · exact congrArg Repl.input h.offline_eq
  · exact congrArg Repl.written h.offline_eq

end Cellbook.Radio
