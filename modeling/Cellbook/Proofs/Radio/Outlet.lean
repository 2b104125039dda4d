import Cellbook.Proofs.Radio.Session
import Mathlib.Logic.Relation

/-!
# Where a REPL has printed text go

Three things decide where printed text goes, and where it will go at STOP: the state of the REPL,
the destination it has put aside, and the process-wide destination of its stream.  They are its
`Outlet`, and a callback changes it by START, STOP and the loss of the central alone, whatever the
radio does (`Repl.outlet_perform`).

So the three never part (`Outlet.Routed`): while idle a REPL has put nothing aside and the
destination is the original one; while active it has put the original one aside and the destination
is the central.  This holds in every state that is reached while nobody else replaces the
destination (`routed_of_reachable`).
-/

namespace Cellbook.Radio

open Output (Routing)

variable {ε ν γ δ : Type}

/-! ## Outlets -/

/-- What decides where printed text goes. -/
structure Outlet (δ : Type) where
  state : ReplState
  /-- The destination put aside. -/
  saved : Option (Destination δ)
  /-- The process-wide destination. -/
  destination : Destination δ

namespace Outlet

/-- The outlet of a REPL that is idle. -/
def idle (original : Destination δ) : Outlet δ := ⟨.idle, none, original⟩

/-- The outlet of a REPL that is active. -/
def active (original : Destination δ) : Outlet δ := ⟨.active, some original, .central⟩

/-- Routes printed text to the central, unless it is already. -/
def capture (outlet : Outlet δ) : Outlet δ :=
  match outlet.state with
  | .idle => active outlet.destination
  | .active => outlet

/-- Puts back what was put aside. -/
def restore (outlet : Outlet δ) : Outlet δ := idle (outlet.saved.getD outlet.destination)

/-- What a callback does to an outlet. -/
def after (outlet : Outlet δ) : Callback → Outlet δ
  | .write octets =>
    match octets.head?.bind Command.ofOctet? with
    | some .start => outlet.capture
    | some .stop => outlet.restore
    | _ => outlet
  | .disconnect => outlet.restore
  | .connect | .advertise => outlet

/-- The original destination is either in place, or put aside for the central. -/
inductive Routed (original : Destination δ) : Outlet δ → Prop
  | idle : Routed original (idle original)
  | active : Routed original (active original)

namespace Routed

variable {original : Destination δ} {outlet : Outlet δ}

theorem eq_idle_or_active (h : Routed original outlet) :
    outlet = .idle original ∨ outlet = .active original := by
  cases h with
  | idle => exact .inl rfl
  | active => exact .inr rfl

theorem capture_eq (h : Routed original outlet) : outlet.capture = .active original := by
  cases h <;> rfl

theorem restore_eq (h : Routed original outlet) : outlet.restore = .idle original := by
  cases h <;> rfl

theorem after (h : Routed original outlet) (callback : Callback) :
    Routed original (outlet.after callback) := by
  have hcapture : Routed original outlet.capture := h.capture_eq ▸ .active
  have hrestore : Routed original outlet.restore := h.restore_eq ▸ .idle
  cases callback with
  | connect => exact h
  | advertise => exact h
  | disconnect => exact hrestore
  | write octets =>
      rw [Outlet.after]
      split
      · exact hcapture
      · exact hrestore
      · exact h

end Routed

end Outlet

/-! ## The outlet of a REPL -/

/-- What no step of a fold changes the fold does not change. -/
theorem foldl_keeps {α β κ : Type} (view : α → κ) {f : α → β → α}
    (h : ∀ a b, view (f a b) = view a) (a : α) (items : List β) :
    view (items.foldl f a) = view a := by
  induction items generalizing a with
  | nil => rfl
  | cons b items ih => exact (ih (f a b)).trans (h a b)

/-- The command of an octet is the one that has this octet. -/
theorem Command.ofOctet?_eq_some_iff {b : UInt8} {command : Command} :
    ofOctet? b = some command ↔ b = command.octet := by
  constructor
  · fun_cases ofOctet? b with
    | case1 hb | case2 _ hb | case3 _ _ hb | case4 _ _ _ hb =>
        rintro ⟨⟩
        exact beq_iff_eq.mp hb
    | case5 => nofun
  · rintro rfl
    cases command <;> rfl

namespace Repl

/-- What decides where printed text goes. -/
def outlet (repl : Repl ε γ δ) : Outlet δ :=
  ⟨repl.state, repl.saved, repl.routing.destination stream⟩

variable (server : GattServer γ) (evaluator : Evaluator ε ν) (repl : Repl ε γ δ)

/-- The radio has no part in where printed text goes. -/
theorem outlet_offline : repl.offline.outlet = repl.outlet := rfl

theorem outlet_print (text : String) : (repl.print server text).outlet = repl.outlet := by
  refine foldl_keeps outlet ?_ repl (repl.routing.write thread stream text)
  rintro repl ⟨_ | destination, text⟩ <;> rfl

theorem outlet_afterScript : (repl.afterScript server evaluator).outlet = repl.outlet :=
  foldl_keeps outlet (outlet_print server) { repl with input := [] } _

theorem outlet_captureOutput : repl.captureOutput.outlet = repl.outlet.capture := by
  rcases repl with ⟨radio, routing, environment, input, _ | _, saved, deviceName, written⟩
  · simp [captureOutput, outlet, Outlet.capture, Outlet.active, Routing.replace]
  · rfl

theorem outlet_restoreOutput : repl.restoreOutput.outlet = repl.outlet.restore := by
  rcases repl with ⟨radio, routing, environment, input, state, _ | original, deviceName, written⟩
  · rfl
  · simp [restoreOutput, outlet, Outlet.restore, Outlet.idle, Routing.replace]

/-- A callback changes where printed text goes by what it asks for alone. -/
theorem outlet_perform (callback : Callback) :
    (repl.perform server evaluator callback).1.outlet = repl.outlet.after callback := by
  cases callback with
  | connect => rfl
  | advertise => rfl
  | disconnect => exact outlet_restoreOutput repl
  | write octets =>
      simp only [perform, handleWrite, Outlet.after]
      cases octets.head?.bind Command.ofOctet? with
      | none => rfl
      | some command =>
          cases command with
          | start => exact outlet_captureOutput repl
          | stop => exact outlet_restoreOutput repl
          | writeInput => rfl
          | run =>
              dsimp only
              rw [← outlet_offline, offline_run, outlet_offline]
              exact outlet_afterScript server evaluator repl

/-- A write that is no command, or empty, changes nothing but the radio. -/
theorem offline_handleWrite_of_forall_ne {octets : Bytes}
    (h : ∀ command : Command, octets.head? ≠ some command.octet) :
    (repl.handleWrite server evaluator octets).1.offline = repl.offline := by
  have hnone : octets.head?.bind Command.ofOctet? = none := by
    rw [Option.eq_none_iff_forall_ne_some]
    intro command hcommand
    obtain ⟨b, hb, hoctet⟩ := Option.bind_eq_some_iff.mp hcommand
    exact h command (hb.trans (congrArg some (Command.ofOctet?_eq_some_iff.mp hoctet)))
  rw [handleWrite, hnone]
  rfl

end Repl

/-! ## Reachable states -/

/-- What may happen to a REPL.  Others may print on its stream and put up captures, and may replace
the destinations of other streams, but not of its own. -/
inductive Step (server : GattServer γ) (evaluator : Evaluator ε ν) (repl : Repl ε γ δ) :
    Repl ε γ δ → Prop
  | callback (callback : Callback) :
      Step server evaluator repl (repl.perform server evaluator callback).1
  /-- The central comes or goes, or the radio changes in any other way. -/
  | radio (radio : γ) : Step server evaluator repl { repl with radio := radio }
  | print (text : String) : Step server evaluator repl (repl.print server text)
  | others (routing : Routing (Destination δ))
      (h : routing.destination Repl.stream = repl.routing.destination Repl.stream) :
      Step server evaluator repl { repl with routing := routing }

/-- What may come of a REPL. -/
abbrev Reachable (server : GattServer γ) (evaluator : Evaluator ε ν) :
    Repl ε γ δ → Repl ε γ δ → Prop :=
  Relation.ReflTransGen (Step server evaluator)

theorem Step.routed {server : GattServer γ} {evaluator : Evaluator ε ν} {repl next : Repl ε γ δ}
    {original : Destination δ} (h : Step server evaluator repl next)
    (hrouted : Outlet.Routed original repl.outlet) : Outlet.Routed original next.outlet := by
  cases h with
  | callback callback =>
      rw [Repl.outlet_perform]
      exact hrouted.after callback
  | radio radio => exact hrouted
  | print text =>
      rw [Repl.outlet_print]
      exact hrouted
  | others routing hsame =>
      rw [Repl.outlet] at hrouted ⊢
      rw [hsame]
      exact hrouted

/-- From where a REPL is new, the original destination is in place or put aside for the central. -/
theorem Reachable.routed {server : GattServer γ} {evaluator : Evaluator ε ν} {radio : γ}
    {routing : Routing (Destination δ)} {deviceName : String} {repl : Repl ε γ δ}
    (h : Reachable server evaluator (.new evaluator radio routing deviceName) repl) :
    Outlet.Routed (routing.destination Repl.stream) repl.outlet := by
  induction h with
  | refl => exact .idle
  | tail _ hstep ih => exact hstep.routed ih

/-- From where a REPL is new, as long as nobody else replaces the destination of its stream, the
original destination is either in place or put aside for the central.  START, again or for the first
time, puts it aside; STOP and the loss of the central put it back, however the radio takes the
banner or the advertising, and so does a REPL that ends.  A write that is no command, or empty,
changes nothing but the radio. -/
theorem routed_of_reachable {server : GattServer γ} {evaluator : Evaluator ε ν} {radio : γ}
    {routing : Routing (Destination δ)} {deviceName : String} {repl : Repl ε γ δ}
    (h : Reachable server evaluator (.new evaluator radio routing deviceName) repl) :
    let original := routing.destination Repl.stream
    Outlet.Routed original repl.outlet ∧
      (∀ payload, (repl.handleWrite server evaluator (Command.start.octet :: payload)).1.outlet =
        .active original) ∧
      (∀ payload, (repl.handleWrite server evaluator (Command.stop.octet :: payload)).1.outlet =
        .idle original) ∧
      (repl.onDisconnect server).1.outlet = .idle original ∧
      repl.restoreOutput.routing.destination Repl.stream = original ∧
      ∀ octets : Bytes, (∀ command : Command, octets.head? ≠ some command.octet) →
        (repl.handleWrite server evaluator octets).1.offline = repl.offline := by
  intro original
  have hrouted : Outlet.Routed original repl.outlet := h.routed
  refine ⟨hrouted, fun payload => ?_, fun payload => ?_, ?_, ?_, fun octets hoctets => ?_⟩
  · exact (repl.outlet_perform server evaluator (.write (Command.start.octet :: payload))).trans
      hrouted.capture_eq
  · exact (repl.outlet_perform server evaluator (.write (Command.stop.octet :: payload))).trans
      hrouted.restore_eq
  · exact (repl.outlet_perform server evaluator .disconnect).trans hrouted.restore_eq
  · exact congrArg Outlet.destination (repl.outlet_restoreOutput.trans hrouted.restore_eq)
  · exact repl.offline_handleWrite_of_forall_ne server evaluator hoctets

/-- START twice and then STOP, with a radio that fails at every notification, and an empty write
between them. -/
theorem routed_of_reachable_simulated :
    let server := SimulatedRadio.server
    let routing : Routing (Destination Unit) := .start fun _ => .elsewhere ()
    ∃ repl : Repl Nat SimulatedRadio Unit,
      Reachable server Evaluator.echo (.new Evaluator.echo { budget := some 0 } routing "a") repl ∧
        repl.saved = some (.elsewhere ()) ∧
        (repl.handleWrite server Evaluator.echo [0x02]).1.outlet = .active (.elsewhere ()) ∧
        (repl.handleWrite server Evaluator.echo []).1.offline = repl.offline ∧
        (repl.handleWrite server Evaluator.echo [0x00]).1.outlet = .idle (.elsewhere ()) := by
  intro server routing
  let first : Repl Nat SimulatedRadio Unit := .new Evaluator.echo { budget := some 0 } routing "a"
  have hstep : Step server Evaluator.echo first
      (first.perform server Evaluator.echo (.write [0x02])).1 := .callback _
  have hreachable : Reachable server Evaluator.echo first _ := .single hstep
  obtain ⟨-, hstart, hstop, -, -, hother⟩ := routed_of_reachable hreachable
  exact ⟨_, hreachable, rfl, hstart [], hother [] (fun _ => nofun), hstop []⟩

end Cellbook.Radio
