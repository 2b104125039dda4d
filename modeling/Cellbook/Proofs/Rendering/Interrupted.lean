import Cellbook.Proofs.Channel.Limit
import Cellbook.Proofs.Channel.Lines
import Cellbook.Proofs.Channel.Room
import Cellbook.Proofs.Rendering.Written

/-!
# Results that are cut short

What is shown of a result goes out in many sends, and any of them may fail.  Written out with all
its parts, an entry's payload, an entry, the entries of a bundle, it stops at whichever send fails,
however deep in the parts that send stands; and that is the same as to make the sends of a flat list
until one fails (`Channel.sendRendered_eq`).

So a channel that fails gets a beginning of the written form.  One with limited room gets the octets
that there is room for, one that ends the sends that it takes, and on any channel nothing is sent
after a send that failed (`Rendered.writeTo_interrupted`).
-/

namespace Cellbook

variable {σ : Type}

/-- Groups with a separator between them are the first, and each other after a separator. -/
theorem flatten_intersperse_cons {α : Type} (separator : α) (group : List α)
    (groups : List (List α)) :
    ((group :: groups).intersperse [separator]).flatten =
      group ++ groups.flatMap (separator :: ·) := by
  induction groups generalizing group with
  | nil => rw [List.intersperse_singleton, List.flatten_singleton, List.flatMap_nil, List.append_nil]
  | cons next groups ih =>
      rw [List.intersperse_cons_cons, List.flatten_cons, List.flatten_cons, ih, List.flatMap_cons,
        List.singleton_append, List.cons_append]

namespace Channel

/-! ## Parts, one after another -/

/-- What is sent next, unless what was sent before it failed. -/
def andThen (sent : σ × SendOutcome) (next : σ → σ × SendOutcome) : σ × SendOutcome :=
  match sent with
  | (state, .ok ()) => next state
  | (state, .error fault) => (state, .error fault)

variable (channel : Channel σ)

/-- Sends a payload, octets in base64 between quotation marks. -/
def sendPayload (payload : Payload) (state : σ) : σ × SendOutcome :=
  match payload with
  | .text content => channel.sendText state (Json.quote content)
  | .binary content =>
    andThen (channel.sendText state "\"") fun state =>
      andThen (channel.sendBase64 state content) fun state => channel.sendText state "\""

/-- Sends an entry of a bundle: its mime type, a colon, its payload. -/
def sendEntry (entry : String × Payload) (state : σ) : σ × SendOutcome :=
  andThen (channel.sendText state (Json.quote entry.1)) fun state =>
    andThen (channel.sendText state ":") fun state => channel.sendPayload entry.2 state

/-- Sends the entries of a bundle from the `i`th on, a comma before each but the first of all. -/
def sendEntries : Nat → List (String × Payload) → σ → σ × SendOutcome
  | _, [], state => (state, .ok ())
  | i, entry :: rest, state =>
    andThen (if 0 < i then channel.sendText state "," else (state, .ok ())) fun state =>
      andThen (channel.sendEntry entry state) fun state => sendEntries (i + 1) rest state

/-- Sends what is shown of a result, part by part. -/
def sendRendered (rendered : Rendered) (state : σ) : σ × SendOutcome :=
  match rendered with
  | .absent => (state, .ok ())
  | .textual text => channel.sendText state (Json.quote text)
  | .bundle shown =>
    andThen (channel.sendText state "\x7b") fun state =>
      andThen (channel.sendEntries 0 shown.entries state) fun state =>
        channel.sendText state "\x7d"

variable {channel}

theorem sendText_eq (state : σ) (text : String) :
    channel.sendText state text = channel.sendAll state [Text.encode text] :=
  (sendAll_singleton state (Text.encode text)).symm

/-- Sends after sends are the sends of one list. -/
theorem andThen_sendAll (state : σ) (sends more : List Bytes) :
    (andThen (channel.sendAll state sends) fun state => channel.sendAll state more) =
      channel.sendAll state (sends ++ more) :=
  (sendAll_append state sends more).symm

theorem sendPayload_eq (payload : Payload) (state : σ) :
    channel.sendPayload payload state = channel.sendAll state (Bundle.payloadSends payload) := by
  cases payload with
  | text content => exact sendText_eq state (Json.quote content)
  | binary content =>
      simp only [sendPayload, sendText_eq, sendBase64_eq, andThen_sendAll, Bundle.payloadSends,
        List.append_assoc]

theorem sendEntry_eq (entry : String × Payload) (state : σ) :
    channel.sendEntry entry state = channel.sendAll state (Bundle.entrySends entry) := by
  simp only [sendEntry, sendText_eq, sendPayload_eq, andThen_sendAll, Bundle.entrySends,
    List.cons_append, List.nil_append]

/-- Entries that are not the first come each after a comma. -/
theorem sendEntries_succ_eq (i : Nat) (entries : List (String × Payload)) (state : σ) :
    channel.sendEntries (i + 1) entries state =
      channel.sendAll state
        (entries.flatMap fun entry => Text.encode "," :: Bundle.entrySends entry) := by
  induction entries generalizing i state with
  | nil => rfl
  | cons entry entries ih =>
      simp only [sendEntries, if_pos (Nat.succ_pos i), sendText_eq, sendEntry_eq, ih,
        andThen_sendAll, List.flatMap_cons, List.cons_append, List.nil_append]

theorem sendEntries_zero_eq (entries : List (String × Payload)) (state : σ) :
    channel.sendEntries 0 entries state =
      channel.sendAll state
        ((entries.map Bundle.entrySends).intersperse [Text.encode ","]).flatten := by
  cases entries with
  | nil => rfl
  | cons entry entries =>
      rw [List.map_cons, flatten_intersperse_cons, List.flatMap_map, ← andThen_sendAll]
      simp only [sendEntries, Nat.lt_irrefl, if_false, sendEntry_eq, sendEntries_succ_eq]
      rfl

/-- To send what is shown part by part is to write it. -/
theorem sendRendered_eq (rendered : Rendered) (state : σ) :
    channel.sendRendered rendered state = rendered.writeTo channel state := by
  cases rendered with
  | absent => rfl
  | textual text => exact sendText_eq state (Json.quote text)
  | bundle shown =>
      simp only [sendRendered, sendText_eq, sendEntries_zero_eq, andThen_sendAll,
        Rendered.writeTo, Rendered.sends, Bundle.sends, List.append_assoc]

end Channel

/-! ## What a failing channel gets -/

namespace Rendered

/-- A channel that fails gets a beginning of what is written.  A writer with limited room gets the
octets there is room for, and a channel that ends the sends that it takes; in both cases the writing
succeeds just if that is all.  On any channel the writing fails with the fault of one send, after
those before it were taken, and the state after that send is the last. -/
theorem writeTo_interrupted (rendered : Rendered) :
    (∀ {σ : Type} {writer : Writer σ} {written : σ → Bytes} {room : σ → Nat},
      writer.Confined written room → ∀ state,
        written (rendered.writeTo writer.channel state).1 =
            written state ++ rendered.wire.take (room state) ∧
          ((rendered.writeTo writer.channel state).2 = .ok () ↔
            rendered.wire.length ≤ room state)) ∧
    (∀ {σ : Type} {channel : Channel σ} {record : σ → List Bytes} {left : σ → Option Nat},
      channel.Limited record left → ∀ state n, left state = some n →
        record (rendered.writeTo channel state).1 = record state ++ rendered.sends.take n ∧
          ((rendered.writeTo channel state).2 = .ok () ↔ rendered.sends.length ≤ n)) ∧
    ∀ {σ : Type} (channel : Channel σ) (state after : σ),
      channel.sendRendered rendered state = rendered.writeTo channel state ∧
      (rendered.writeTo channel state = (after, .ok ()) ↔
        channel.Takes state rendered.sends after) ∧
      ∀ fault, rendered.writeTo channel state = (after, .error fault) ↔
        ∃ taken refused rest between, rendered.sends = taken ++ refused :: rest ∧
          channel.Takes state taken between ∧
          channel.send between refused = (after, .error fault) := by
  refine ⟨?_, ?_, fun channel state after => ?_⟩
  · intro σ writer written room h state
    obtain ⟨hfilled, hiff⟩ := h.channel.filled_sendAll state rendered.sends
    exact ⟨hfilled.written_eq, hiff⟩
  · intro σ channel record left h state n hleft
    obtain ⟨hdelivered, hiff⟩ := h.delivered_sendAll state rendered.sends
    have hrecord := hdelivered.record_eq
    rw [hleft] at hrecord hiff
    exact ⟨hrecord, hiff.trans Channel.lasts_some_iff⟩
  · exact ⟨Channel.sendRendered_eq rendered state, Channel.sendAll_eq_ok_iff,
      fun fault => Channel.sendAll_eq_error_iff⟩

/-- Where the room ends in a line of base64, the beginning of the line is stored; where a reader
leaves after three sends, it has those. -/
theorem writeTo_interrupted_image :
    let rendered : Rendered := .bundle
      ⟨[("text/plain", .text "a"), ("image/png", .binary (List.replicate 58 0xab))]⟩
    let written := rendered.writeTo Writer.bounded.channel ⟨[], 39⟩
    let recorded := rendered.writeTo Recorder.channel (.empty (some 3))
    (written.1.contents = Text.encode "\x7b\"text/plain\":\"a\",\"image/png\":\"q6urq6ur" ∧
        written.2 ≠ .ok ()) ∧
      recorded.1.sends = ["\x7b", "\"text/plain\"", ":"].map Text.encode ∧ recorded.2 ≠ .ok () := by
  intro rendered written recorded
  obtain ⟨hlimited, hrecorder, -⟩ := writeTo_interrupted rendered
  obtain ⟨hcontents, hfits⟩ := hlimited Writer.confined_bounded ⟨[], 39⟩
  obtain ⟨hsends, hlasts⟩ := hrecorder Recorder.limited_channel (.empty (some 3)) 3 rfl
  refine ⟨⟨hcontents.trans (by decide +kernel), mt hfits.mp (by decide +kernel)⟩,
    hsends.trans (by decide +kernel), mt hlasts.mp (by decide +kernel)⟩

end Rendered

end Cellbook
