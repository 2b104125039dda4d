import Cellbook.Proofs.Engine.Course
import Cellbook.Proofs.Rendering.Written

/-!
# The framing of a run

What a run sends can be taken apart again.  Every printed text goes out as one line, which holds no
newline of its own whatever the text holds, and what is shown of the result goes out after the last
line and holds no newline either.  So the newlines cut the octets of a run into one JSON string for
each printed text and one last piece, which is what is shown (`Engine.run_framed`).
-/

namespace Cellbook

open Json (IsValue)

variable {ε ν σ : Type}

/-! ## Lines -/

/-- The octet that ends a line. -/
def newline : UInt8 := '\n'.toUInt8

theorem newline_notMem {octets : Bytes} (h : Printable octets) : newline ∉ octets :=
  fun hmem => h newline hmem (by decide)

/-- A printed text is sent as a JSON string and a newline. -/
theorem encode_frame (text : String) :
    Text.encode (frame text) = Text.encode (Json.quote text) ++ [newline] := by
  rw [frame, Text.encode_append]
  rfl

/-- The newlines cut frames and what follows them into the strings of the frames and
what follows. -/
theorem splitOn_frames (texts : List String) {last : Bytes} (h : newline ∉ last) :
    ((texts.map fun text => Text.encode (frame text)).flatten ++ last).splitOn newline =
      (texts.map fun text => Text.encode (Json.quote text)) ++ [last] := by
  induction texts with
  | nil => exact List.splitOn_eq_singleton h
  | cons text texts ih =>
      have hquote : newline ∉ Text.encode (Json.quote text) :=
        newline_notMem (Json.printable_quote text)
      rw [List.map_cons, List.flatten_cons, encode_frame, List.append_assoc, List.append_assoc,
        List.singleton_append, List.splitOn_append_cons_self_of_not_mem hquote, ih]
      rfl

example : (Text.encode (frame "a\nb")).splitOn newline = [Text.encode "\"a\\nb\"", []] := by decide

/-! ## What is printed

The texts of a cell are those that an evaluator notes which keeps a record of what it prints in its
environment. -/

/-- A call that adds what it printed to what was noted before. -/
def Called.note {α : Type} (noted : List String) (called : Called ε α) :
    Called (ε × List String) α :=
  ⟨(called.environment, noted ++ called.printed), called.printed, called.outcome⟩

/-- The evaluator that notes what it prints. -/
def Evaluator.noting (evaluator : Evaluator ε ν) : Evaluator (ε × List String) ν where
  fresh := (evaluator.fresh, [])
  run noted source := (evaluator.run noted.1 source).note noted.2
  evaluate? noted source := (evaluator.evaluate? noted.1 source).note noted.2

theorem Called.bind_note {α β : Type} (noted : List String) (called : Called ε α)
    {next : ε → α → Called ε β} {after : ε × List String → α → Called (ε × List String) β}
    (h : ∀ environment noted value, after (environment, noted) value =
      (next environment value).note noted) :
    (called.note noted).bind after = (called.bind next).note noted := by
  rcases called with ⟨environment, printed, fault | value⟩
  · rfl
  · simp [Called.bind, Called.note, h]

/-- A call that prints nothing is noted by nothing. -/
theorem Called.done_note {α : Type} (environment : ε) (noted : List String) (value : α) :
    Called.done (environment, noted) value = (Called.done environment value).note noted := by
  simp [Called.done, Called.note]

/-- The evaluator that notes what it prints makes the same calls. -/
theorem Evaluator.callCell_noting (evaluator : Evaluator ε ν) (parts : CellParts) (environment : ε)
    (noted : List String) :
    evaluator.noting.callCell parts (environment, noted) =
      (evaluator.callCell parts environment).note noted := by
  have hbody : evaluator.noting.callBody parts.body (environment, noted) =
      (evaluator.callBody parts.body environment).note noted := by
    cases parts.body with
    | none => exact Called.done_note environment noted ()
    | some source => rfl
  rw [callCell, hbody]
  refine Called.bind_note noted _ fun environment noted _ => ?_
  cases parts.tail with
  | none => exact Called.done_note environment noted none
  | some source =>
      refine Called.bind_note noted (evaluator.evaluate? environment source) ?_
      intro environment noted value
      cases value with
      | some value => exact Called.done_note environment noted (some value)
      | none =>
          refine Called.bind_note noted (evaluator.run environment source) ?_
          exact fun environment noted _ => Called.done_note environment noted none

/-- A cell prints what is noted as it is executed, on any channel. -/
theorem Evaluator.execute_noting [Represent ν] (evaluator : Evaluator ε ν) (channel : Channel σ)
    (parts : CellParts) (environment : ε) (state : σ) :
    (evaluator.noting.execute channel parts (environment, []) state).environment.2 =
      (evaluator.callCell parts environment).printed := by
  rw [Evaluator.execute_eq_deliver, Called.deliver_environment, Evaluator.callCell_noting]
  rfl

/-! ## What is shown -/

/-- What a cell shows of its result, in octets. -/
def Called.shown [Represent ν] (cell : Called ε (Option ν)) : Bytes :=
  match cell.outcome with
  | .ok (some value) => (encode value).wire
  | _ => []

theorem Called.shown_eq_nil [Represent ν] (cell : Called ε (Option ν))
    (h : ∀ value, cell.outcome ≠ .ok (some value)) : cell.shown = [] := by
  rw [shown]
  split
  · exact absurd ‹_› (h _)
  · rfl

theorem encode_eq_absent_iff [Represent ν] (value : ν) :
    encode value = .absent ↔ (represent value).absent = true := by
  rw [encode, Representation.encode]
  split
  · simp_all
  · split
    · simp_all
    · split <;> simp_all

theorem Called.flatten_sends [Represent ν] (cell : Called ε (Option ν)) :
    cell.sends.flatten =
      (cell.printed.map fun text => Text.encode (frame text)).flatten ++ cell.shown := by
  rw [Called.sends, List.flatten_append, Called.shown]
  rcases cell with ⟨environment, printed, ⟨fault⟩ | ⟨_ | value⟩⟩ <;> rfl

theorem Called.newline_notMem_shown [Represent ν] (cell : Called ε (Option ν)) :
    newline ∉ cell.shown := by
  rcases cell with ⟨environment, printed, ⟨fault⟩ | ⟨_ | value⟩⟩
  · exact List.not_mem_nil
  · exact List.not_mem_nil
  · exact newline_notMem (encode value).printable_wire

/-! ## The framing of a run -/

/-- How the octets of a run are cut into the lines of a cell and what is shown of its result. -/
structure Framed [Represent ν] (cell : Called ε (Option ν)) (octets : Bytes) (lines : List Bytes)
    (last : Bytes) : Prop where
  /-- The newlines cut the octets into the lines and a last piece. -/
  splitOn_eq : octets.splitOn newline = lines ++ [last]
  /-- There is a line for each printed text. -/
  length_eq : lines.length = cell.printed.length
  /-- Each line is the printed text as a JSON string. -/
  decode_eq : lines.map (Json.decode Json.text) = cell.printed.map .ok
  /-- Of a cell that failed nothing is shown: its octets are those of the printed texts. -/
  failed : ∀ fault, cell.outcome = .error fault → last = [] ∧
    octets = (cell.printed.map fun text => Text.encode (frame text)).flatten
  /-- Of a cell without a value nothing is shown. -/
  valueless : cell.outcome = .ok none → last = []
  /-- Of an absent value nothing is shown. -/
  absent : ∀ value, cell.outcome = .ok (some value) → (represent value).absent = true → last = []
  /-- Any other value is shown as one JSON value, the written form of its rendering. -/
  shown : ∀ value, cell.outcome = .ok (some value) → (represent value).absent = false →
    last = (encode value).wire ∧ IsValue last

/-- What a cell sends is framed. -/
theorem Called.framed [Represent ν] (cell : Called ε (Option ν)) :
    Framed cell cell.sends.flatten (cell.printed.map fun text => Text.encode (Json.quote text))
      cell.shown where
  splitOn_eq := by rw [cell.flatten_sends, splitOn_frames _ cell.newline_notMem_shown]
  length_eq := List.length_map _
  decode_eq := by simp [Json.decode_quote]
  failed fault h := by
    have hlast : cell.shown = [] := by rw [shown, h]
    exact ⟨hlast, by rw [cell.flatten_sends, hlast, List.append_nil]⟩
  valueless h := by rw [shown, h]
  absent value h habsent := by
    rw [shown, h]
    dsimp only
    rw [(encode_eq_absent_iff value).mpr habsent, Rendered.wire_absent]
  shown value h hpresent := by
    have hne : encode value ≠ .absent := by
      rw [ne_eq, encode_eq_absent_iff, hpresent]
      exact Bool.false_ne_true
    have hlast : cell.shown = (encode value).wire := by rw [Called.shown, h]
    exact ⟨hlast, hlast ▸ Rendered.isValue_wire hne⟩

namespace Engine

/-- The octets of a run on a channel that never fails, whatever the evaluator, the environment and
the cell: a line for each text the evaluator notes that it prints, in order, and after the last line
what is shown of the result, which is nothing where the run failed, there was no tail, the tail was
no expression or its value was absent. -/
theorem run_framed [Represent ν] (engine : Engine ε ν) {channel : Channel σ} {good : σ → Prop}
    {delivered : σ → Bytes} (h : channel.Faithful good delivered) (id : NotebookId)
    (source : String) (state : σ) (hstate : good state) :
    let parts := CellParts.ofSource source
    let environment := engine.environmentOf id
    let cell := engine.evaluator.callCell parts environment
    let ran := (engine.run channel id source state).2
    (engine.evaluator.noting.execute channel parts (environment, []) state).environment.2 =
        cell.printed ∧
      ran.2 = (cell.outcome.map fun _ => ()) ∧
      ∃ octets lines last, delivered ran.1 = delivered state ++ octets ∧
        Framed cell octets lines last ∧ (parts.tail = none → last = []) ∧
        ∀ tail, parts.tail = some tail →
          (engine.evaluator.evaluate? (engine.evaluator.callBody parts.body environment).environment
            tail).outcome = .ok none → last = [] := by
  intro parts environment cell ran
  have hrun : ran = ((channel.sendAll state cell.sends).1, cell.outcome.map fun _ => ()) :=
    engine.run_eq_of_reliable h.toReliable hstate id source
  refine ⟨engine.evaluator.execute_noting channel parts environment state, by rw [hrun],
    cell.sends.flatten, _, cell.shown, ?_, cell.framed, ?_, ?_⟩
  · rw [hrun, h.delivered_sendAll hstate]
  · intro htail
    exact cell.shown_eq_nil (engine.evaluator.callCell_of_tail_eq_none htail environment)
  · intro tail htail hnone
    exact cell.shown_eq_nil (engine.evaluator.callCell_of_evaluate?_eq_none htail hnone)

end Engine

/-- A cell of three lines on the growing buffer: the two lines that are run are printed as
one text. -/
theorem Engine.run_framed_echo :
    let engine := Engine.new Evaluator.echo
    let parts := CellParts.ofSource "one\ntwo\nthree"
    let id : NotebookId := ⟨"a.unb", by decide⟩
    let cell := engine.evaluator.callCell parts (engine.environmentOf id)
    let ran := (engine.run bufferChannel id "one\ntwo\nthree" []).2
    cell.printed = ["one\ntwo"] ∧ ran.2 = .ok () ∧
      ∃ octets lines last, ran.1 = octets ∧ Framed cell octets lines last := by
  intro engine parts id cell ran
  obtain ⟨-, houtcome, octets, lines, last, hdelivered, hframed, -⟩ :=
    engine.run_framed faithful_bufferChannel id "one\ntwo\nthree" [] trivial
  have hparts : parts = ⟨some "one\ntwo", some "three"⟩ := by decide
  have hprinted : cell.printed = ["one\ntwo"] := by
    simp only [cell, hparts]
    rfl
  have hvalue : cell.outcome = .ok (some "three") := by
    simp only [cell, hparts]
    rfl
  refine ⟨hprinted, ?_, octets, lines, last, hdelivered, hframed⟩
  rw [houtcome]
  exact congrArg _ hvalue

end Cellbook
