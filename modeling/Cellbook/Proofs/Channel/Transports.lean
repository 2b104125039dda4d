import Cellbook.Proofs.Channel.Lines
import Cellbook.Proofs.Channel.Writer
import Cellbook.Proofs.Engine.Framing
import Cellbook.Proofs.Radio.Notifications
import Cellbook.Proofs.Server.Draining

/-!
# One stream of octets over every transport

Calls on a channel come down to sends (`Sending.perform_eq`), and a faithful channel delivers sends
in order with nothing dropped, repeated or in between.  Every transport whose client is there is
faithful (`Transport.Standard.faithful`), though each cuts the stream in its own way, so that all of
them deliver the same octets (`Transport.same_stream`).

What holds of a radio in every state, its client gone or its notifications failing, holds after
whole runs because it is kept by a send (`Channel.Maintains`).
-/

namespace Cellbook

open Radio (GattServer Fragmented)

variable {σ ε ν : Type}

/-! ## What sends keep -/

/-- Every send keeps `p`, whether it succeeds or fails. -/
structure Channel.Maintains (channel : Channel σ) (p : σ → Prop) : Prop where
  send : ∀ {state : σ}, p state → ∀ octets, p (channel.send state octets).1

namespace Channel.Maintains

variable {channel : Channel σ} {p : σ → Prop} {state : σ}

theorem sendAll (h : channel.Maintains p) (hstate : p state) (sends : List Bytes) :
    p (channel.sendAll state sends).1 := by
  induction sends generalizing state with
  | nil => exact hstate
  | cons octets sends ih =>
      have hnext := h.send hstate octets
      rw [Channel.sendAll]
      rcases hsend : channel.send state octets with ⟨next, fault | ⟨⟩⟩
      all_goals rw [hsend] at hnext
      · exact hnext
      · exact ih hnext

theorem print (h : channel.Maintains p) {printing : Printing σ} (hstate : p printing.state)
    (text : String) : p (printing.print channel text).state := by
  have hnext := h.send hstate (Text.encode (frame text))
  rw [Printing.print]
  split
  case isTrue => exact hstate
  case isFalse =>
    rw [Channel.sendText]
    rcases hsend : channel.send printing.state (Text.encode (frame text)) with ⟨next, fault | ⟨⟩⟩
    all_goals
      rw [hsend] at hnext
      exact hnext

theorem printAll (h : channel.Maintains p) {printing : Printing σ} (hstate : p printing.state)
    (texts : List String) : p (printing.printAll channel texts).state := by
  induction texts generalizing printing with
  | nil => exact hstate
  | cons text texts ih => exact ih (h.print hstate text)

theorem deliver [Represent ν] (h : channel.Maintains p) {printing : Printing σ}
    (hstate : p printing.state) (called : Called ε (Option ν)) :
    p (called.deliver channel printing).state := by
  have hprinted := h.printAll hstate called.printed
  rcases called with ⟨environment, printed, ⟨fault⟩ | ⟨_ | value⟩⟩
  · exact hprinted
  · exact hprinted
  · exact h.sendAll hprinted (encode value).sends

/-- What every send keeps, a run keeps. -/
theorem run [Represent ν] (h : channel.Maintains p) (hstate : p state) (engine : Engine ε ν)
    (id : NotebookId) (source : String) : p (engine.run channel id source state).2.1 := by
  change p ((engine.lookUp id).1.executeAt channel (engine.lookUp id).2 source state).2.1
  rw [Engine.executeAt]
  dsimp only
  split
  · exact hstate
  · rw [Evaluator.execute_eq_deliver]
    exact h.deliver hstate _

end Channel.Maintains

/-! ## Calls -/

/-- A call on a channel. -/
inductive Sending where
  | send (octets : Bytes)
  | sendText (text : String)
  | sendBase64 (octets : Bytes)
  | write (rendered : Rendered)

namespace Sending

/-- Makes a call. -/
def perform (channel : Channel σ) (state : σ) : Sending → σ × SendOutcome
  | .send octets => channel.send state octets
  | .sendText text => channel.sendText state text
  | .sendBase64 octets => channel.sendBase64 state octets
  | .write rendered => rendered.writeTo channel state

/-- Makes calls in order, whatever comes of them. -/
def performAll (channel : Channel σ) : σ → List Sending → σ × List SendOutcome
  | state, [] => (state, [])
  | state, sending :: rest =>
    let (next, outcome) := sending.perform channel state
    let (last, outcomes) := performAll channel next rest
    (last, outcome :: outcomes)

/-- The sends of a call. -/
def sends : Sending → List Bytes
  | .send octets => [octets]
  | .sendText text => [Text.encode text]
  | .sendBase64 octets => Base64.lines octets
  | .write rendered => rendered.sends

/-- The octets that a call is to deliver. -/
def wire : Sending → Bytes
  | .send octets => octets
  | .sendText text => Text.encode text
  | .sendBase64 octets => Base64.encode octets
  | .write rendered => rendered.wire

theorem flatten_sends (sending : Sending) : sending.sends.flatten = sending.wire := by
  cases sending with
  | send octets => exact List.flatten_singleton
  | sendText text => exact List.flatten_singleton
  | sendBase64 octets => exact Base64.flatten_lines octets
  | write rendered => rfl

/-- On any channel, a call is its sends. -/
theorem perform_eq (channel : Channel σ) (state : σ) (sending : Sending) :
    sending.perform channel state = channel.sendAll state sending.sends := by
  cases sending with
  | send octets => exact (Channel.sendAll_singleton state octets).symm
  | sendText text => exact (Channel.sendAll_singleton state (Text.encode text)).symm
  | sendBase64 octets => exact channel.sendBase64_eq state octets
  | write rendered => rfl

/-- What every send keeps, calls keep. -/
theorem maintains_performAll {channel : Channel σ} {p : σ → Prop} {state : σ}
    (h : channel.Maintains p) (hstate : p state) (sendings : List Sending) :
    p (performAll channel state sendings).1 := by
  induction sendings generalizing state with
  | nil => exact hstate
  | cons sending sendings ih =>
      have hnext : p (sending.perform channel state).1 := by
        rw [perform_eq]
        exact h.sendAll hstate sending.sends
      exact ih hnext

/-- A faithful channel delivers every call, in order. -/
theorem delivered_performAll {channel : Channel σ} {good : σ → Prop} {delivered : σ → Bytes}
    {state : σ} (h : channel.Faithful good delivered) (hstate : good state)
    (sendings : List Sending) :
    delivered (performAll channel state sendings).1 = delivered state ++ sendings.flatMap wire ∧
      ∀ outcome ∈ (performAll channel state sendings).2, outcome = .ok () := by
  induction sendings generalizing state with
  | nil => exact ⟨(List.append_nil _).symm, fun _ hmem => absurd hmem List.not_mem_nil⟩
  | cons sending sendings ih =>
      have hperform := perform_eq channel state sending
      have hnext : good (sending.perform channel state).1 :=
        hperform ▸ h.sendAll_stays hstate sending.sends
      have hoctets : delivered (sending.perform channel state).1 =
          delivered state ++ sending.wire := by
        rw [hperform, h.delivered_sendAll hstate, flatten_sends]
      obtain ⟨hrest, hok⟩ := ih hnext
      constructor
      · change delivered (performAll channel (sending.perform channel state).1 sendings).1 = _
        rw [hrest, hoctets, List.flatMap_cons, List.append_assoc]
      · intro outcome hmem
        have hfirst : (sending.perform channel state).2 = .ok () :=
          hperform ▸ h.sendAll_succeeds hstate sending.sends
        rcases List.mem_cons.mp hmem with heq | hmem
        · exact heq.trans hfirst
        · exact hok outcome hmem

end Sending

/-! ## Transports -/

/-- A channel, the state in which its client finds it, and what the client has of it. -/
structure Transport where
  State : Type
  channel : Channel State
  start : State
  delivered : State → Bytes

namespace Transport

/-- The transports, with their clients there, of which all copies lead to one destination. -/
inductive Shared : Transport → Prop
  | recording : Shared ⟨Recorder, Recorder.channel, .empty none, fun kept => kept.sends.flatten⟩
  | buffer : Shared ⟨Bytes, bufferChannel, [], id⟩
  | http (pace : List Nat) :
      Shared ⟨Server.Drain, Server.Drain.channel, { pace := pace }, Server.Drain.delivered⟩
  | radio {γ : Type} {server : GattServer γ} {good : γ → Prop} {delivered : γ → Bytes}
      (h : server.Linked good delivered) {start : γ} (hstart : good start) :
      Shared ⟨γ, server.channel, start, delivered⟩

/-- All transports with their clients there: those, and buffers and writers that are the only one
to lead to their destination. -/
inductive Standard : Transport → Prop
  | shared {transport : Transport} (h : Shared transport) : Standard transport
  | owned (start : Bytes) : Standard ⟨Bytes, bufferChannel, start, id⟩
  | writer {σ : Type} {writer : Writer σ} {good : σ → Prop} {written : σ → Bytes}
      (h : writer.Keeps good written) {start : σ} (hstart : good start) :
      Standard ⟨σ, writer.channel, start, written⟩

theorem Standard.faithful {transport : Transport} (h : transport.Standard) :
    ∃ good, transport.channel.Faithful good transport.delivered ∧ good transport.start := by
  cases h with
  | shared h =>
      cases h with
      | recording => exact ⟨_, Recorder.faithful_channel, rfl⟩
      | buffer => exact ⟨_, faithful_bufferChannel, trivial⟩
      | http pace => exact ⟨_, Server.Drain.faithful_channel, rfl, Nat.zero_le _⟩
      | radio hlinked hstart => exact ⟨_, hlinked.faithful, hstart⟩
  | owned start => exact ⟨_, faithful_bufferChannel, trivial⟩
  | writer hkeeps hstart => exact ⟨_, hkeeps.faithful, hstart⟩

/-- The client gets these octets, after what it has at the start, where the channel is left in the
state `after`. -/
def Gets (transport : Transport) (octets : Bytes) (after : transport.State) : Prop :=
  transport.delivered after = transport.delivered transport.start ++ octets

/-- A fragment that fits a notification. -/
def Fits (fragment : Bytes) : Prop := 1 ≤ fragment.length ∧ fragment.length ≤ 180

theorem maintains_fits {γ : Type} {server : GattServer γ} {notified : γ → List Bytes}
    {left : γ → Option Nat} (h : server.Limited notified left) :
    server.channel.Maintains fun state => ∀ fragment ∈ notified state, Fits fragment where
  send {state} hstate octets fragment hmem := by
    have hfragments : Fragmented 180 octets (Base64.cut Radio.notifySize octets) :=
      Radio.fragmented_cut (by decide) octets
    rcases h.mem_cut_of_mem_notified hmem with hmem | hmem
    · exact hstate fragment hmem
    · exact ⟨hfragments.length_pos fragment hmem, hfragments.length_le fragment hmem⟩

/-- Calls deliver the same octets over all transports, and none of them fails.  A cell that runs
delivers the same octets over those whose copies lead to one destination.  Over any radio, whatever
calls are made and whatever cells are run, each notification holds 1 to 180 octets; a send goes out
in fragments of 180 octets and the rest, as many of them as notifications succeed, or not at all if
there is no central. -/
theorem same_stream [Represent ν] :
    (∀ (sendings : List Sending) (transport : Transport), transport.Standard →
      let performed := Sending.performAll transport.channel transport.start sendings
      transport.Gets (sendings.flatMap Sending.wire) performed.1 ∧
        ∀ outcome ∈ performed.2, outcome = .ok ()) ∧
    (∀ (engine : Engine ε ν) (id : NotebookId) (source : String),
      ∃ octets outcome, ∀ transport : Transport, transport.Shared →
        let ran := engine.run transport.channel id source transport.start
        transport.Gets octets ran.2.1 ∧ ran.2.2 = outcome) ∧
    ∀ {γ : Type} (server : GattServer γ) (notified : γ → List Bytes) (left : γ → Option Nat),
      server.Limited notified left → ∀ state : γ,
        (∀ octets, ∃ fragments, Fragmented 180 octets fragments ∧
          server.Sent notified left state octets fragments) ∧
        ((∀ fragment ∈ notified state, Fits fragment) →
          (∀ sendings, ∀ fragment ∈
            notified (Sending.performAll server.channel state sendings).1, Fits fragment) ∧
          ∀ (engine : Engine ε ν) (id : NotebookId) (source : String), ∀ fragment ∈
            notified (engine.run server.channel id source state).2.1, Fits fragment) := by
  refine ⟨?calls, ?cells, ?radio⟩
  case calls =>
    intro sendings transport hstandard performed
    obtain ⟨good, hfaithful, hstart⟩ := hstandard.faithful
    exact Sending.delivered_performAll hfaithful hstart sendings
  case cells =>
    intro engine id source
    refine ⟨(engine.callCell id source).sends.flatten,
      (engine.callCell id source).outcome.map fun _ => (), fun transport hshared => ?_⟩
    obtain ⟨good, hfaithful, hstart⟩ := (Standard.shared hshared).faithful
    intro ran
    have hran : ran.2 = _ := engine.run_eq_of_reliable hfaithful.toReliable hstart id source
    rw [hran]
    exact ⟨hfaithful.delivered_sendAll hstart _, rfl⟩
  case radio =>
    intro γ server notified left hlimited state
    refine ⟨fun octets => ⟨_, Radio.fragmented_cut (by decide) octets,
      hlimited.sent state octets⟩, fun hstate => ⟨fun sendings => ?_, fun engine id source => ?_⟩⟩
    · exact Sending.maintains_performAll (maintains_fits hlimited) hstate sendings
    · exact (maintains_fits hlimited).run hstate engine id source

/-- Over HTTP and over a simulated radio the same calls deliver the same octets, as does a cell; and
of 200 octets a radio that notifies once more delivers 180. -/
theorem same_stream_simulated :
    let radio : Transport := ⟨Radio.SimulatedRadio, Radio.SimulatedRadio.server.channel, {},
      fun radio => radio.notified.flatten⟩
    let http : Transport := ⟨Server.Drain, Server.Drain.channel, { pace := [1] },
      Server.Drain.delivered⟩
    let called (transport : Transport) := transport.delivered (Sending.performAll transport.channel
      transport.start [.sendText "a", .sendBase64 [104, 105]]).1
    let ran (transport : Transport) := transport.delivered ((Engine.new Evaluator.echo).run
      transport.channel ⟨"a.unb", by decide⟩ "one\ntwo" transport.start).2.1
    let long : Bytes := List.replicate 200 7
    called radio = called http ∧ ran radio = ran http ∧
      ∃ fragment, fragment.length = 180 ∧ fragment <+: long ∧ ∃ after fault,
        Radio.SimulatedRadio.server.channel.send { budget := some 1 } long = (after, .error fault) ∧
          after.notified = [fragment] := by
  intro radio http called ran long
  have hradio : radio.Shared := .radio Radio.SimulatedRadio.linked_server ⟨rfl, rfl⟩
  have hhttp : http.Shared := .http [1]
  obtain ⟨hcalls, hcells, hover⟩ := @same_stream Nat String _
  obtain ⟨octets, outcome, hcell⟩ :=
    hcells (Engine.new Evaluator.echo) ⟨"a.unb", by decide⟩ "one\ntwo"
  refine ⟨?called, ?ran, ?sent⟩
  case called => exact (hcalls _ radio (.shared hradio)).1.trans (hcalls _ http (.shared hhttp)).1.symm
  case ran => exact (hcell radio hradio).1.trans (hcell http hhttp).1.symm
  case sent =>
    obtain ⟨fragments, hfragments, hsent⟩ :=
      (hover _ _ _ Radio.SimulatedRadio.limited_server { budget := some 1 }).1 long
    have hlong : fragments.flatten.length = 200 := by
      rw [hfragments.flatten_eq]
      exact List.length_replicate
    match fragments, hlong with
    | [fragment], hlong =>
        rw [List.flatten_singleton] at hlong
        have hshort := hfragments.length_le fragment List.mem_cons_self
        omega
    | fragment :: next :: rest, _ =>
        obtain ⟨hnotified, fault, hfault⟩ :=
          (hsent.limited rfl 1 rfl).cut (Nat.succ_lt_succ (Nat.succ_pos rest.length))
        rcases hafter : Radio.SimulatedRadio.server.channel.send { budget := some 1 } long with
          ⟨after, outcome⟩
        rw [hafter] at hnotified hfault
        refine ⟨fragment, hfragments.full fragment (by simp), ?_, after, fault,
          congrArg (Prod.mk after) hfault, hnotified⟩
        rw [← hfragments.flatten_eq]
        exact List.prefix_append fragment (next :: rest).flatten

end Transport

end Cellbook
