import Cellbook.Proofs.Radio.Outlet
import Cellbook.Proofs.Text.Pieces

/-!
# Reports of a run

The central learns of a RUN in band: what the script printed while the REPL is active, then the
failure if there was one, and then the prompt.  Where the printed texts go is settled by the outlet
that earlier commands have left, which is one of two (`Outlet.Routed`): they all go to the central,
or they all go to the original destination (`Repl.printAll_central`, `Repl.printAll_elsewhere`).
What is told after the script has ended goes to the central in both (`run_reported`).

What a server was asked, and how it answered, is kept by another that does the same otherwise
(`GattServer.logged`).  A RUN for which the central was there and no notification failed is one whose
log holds only such answers, and its notifications are read off the log.
-/

namespace Cellbook.Radio

open Output (Routing)

variable {ε ν γ δ : Type}

/-! ## Logs -/

/-- What a server was asked, and how it answered. -/
inductive Answer where
  | connected (answer : Bool)
  | notified (octets : Bytes) (outcome : Except String Unit)
  | advertised (name : String) (outcome : Except String Unit)

namespace Answer

/-- Whether the central is there, or what was asked for succeeded. -/
def isFavourable : Answer → Bool
  | .connected answer => answer
  | .notified _ outcome | .advertised _ outcome => outcome.isOk

/-- The octets that the central has of it. -/
def octets : Answer → Bytes
  | .notified octets (.ok ()) => octets
  | _ => []

end Answer

namespace GattServer

/-- The server that keeps its answers, in order. -/
def logged (server : GattServer γ) : GattServer (γ × List Answer) where
  isConnected kept :=
    let (state, answer) := server.isConnected kept.1
    ((state, kept.2 ++ [.connected answer]), answer)
  notify kept octets :=
    let (state, outcome) := server.notify kept.1 octets
    ((state, kept.2 ++ [.notified octets outcome]), outcome)
  advertise kept name :=
    let (state, outcome) := server.advertise kept.1 name
    ((state, kept.2 ++ [.advertised name outcome]), outcome)

/-- An operation comes to the same where answers are kept.  If they are all favourable it succeeds,
and the central has been notified of `octets`. -/
def Conveys (octets : Bytes) (log : List Answer) (plain : γ × Except RadioFault Unit)
    (logged : (γ × List Answer) × Except RadioFault Unit) : Prop :=
  ∃ answers, logged = ((plain.1, log ++ answers), plain.2) ∧
    ((∀ answer ∈ answers, answer.isFavourable) →
      plain.2 = .ok () ∧ answers.flatMap Answer.octets = octets)

variable (server : GattServer γ)

theorem conveys_notifyAll (state : γ) (log : List Answer) (fragments : List Bytes) :
    Conveys fragments.flatten log (server.notifyAll state fragments)
      (server.logged.notifyAll (state, log) fragments) := by
  induction fragments generalizing state log with
  | nil => exact ⟨[], by rw [List.append_nil]; rfl, fun _ => ⟨rfl, rfl⟩⟩
  | cons fragment fragments ih =>
      rcases hnotify : server.notify state fragment with ⟨next, report | ⟨⟩⟩
      · refine ⟨[.notified fragment (.error report)], ?_, fun h => ?_⟩
        · simp only [notifyAll, logged, hnotify]
        · exact nomatch h _ List.mem_cons_self
      · obtain ⟨answers, heq, hconveys⟩ := ih next (log ++ [.notified fragment (.ok ())])
        refine ⟨.notified fragment (.ok ()) :: answers, ?_, fun h => ?_⟩
        · rw [notifyAll, notifyAll, hnotify]
          simp only [logged, hnotify] at heq ⊢
          rw [heq, List.append_assoc]
          rfl
        · obtain ⟨hok, hoctets⟩ := hconveys fun answer hanswer => h answer (.tail _ hanswer)
          rw [notifyAll, hnotify]
          exact ⟨hok, congrArg (fragment ++ ·) hoctets⟩

theorem conveys_send (state : γ) (log : List Answer) (octets : Bytes) :
    Conveys octets log (server.send state octets) (server.logged.send (state, log) octets) := by
  rcases hasked : server.isConnected state with ⟨next, _ | _⟩
  · refine ⟨[.connected false], ?_, fun h => ?_⟩
    · simp only [send, logged, hasked]
    · exact nomatch h _ List.mem_cons_self
  · obtain ⟨answers, heq, hconveys⟩ := server.conveys_notifyAll next (log ++ [.connected true])
      (Base64.cut notifySize octets)
    refine ⟨.connected true :: answers, ?_, fun h => ?_⟩
    · rw [send, send, hasked]
      simp only [logged, hasked] at heq ⊢
      rw [heq, List.append_assoc]
      rfl
    · obtain ⟨hok, hoctets⟩ := hconveys fun answer hanswer => h answer (.tail _ hanswer)
      rw [send, hasked]
      exact ⟨hok, hoctets.trans (Base64.flatten_cutUpTo (by decide) (Nat.le_refl _))⟩

/-- Texts printed to the central come to the same where answers are kept. -/
theorem exists_printAll_logged (state : γ) (log : List Answer) (texts : List String) :
    ∃ answers, texts.foldl server.logged.print (state, log) =
        (texts.foldl server.print state, log ++ answers) ∧
      ((∀ answer ∈ answers, answer.isFavourable) →
        answers.flatMap Answer.octets = texts.flatMap Text.encode) := by
  induction texts generalizing state log with
  | nil => exact ⟨[], by rw [List.append_nil]; rfl, fun _ => rfl⟩
  | cons text texts ih =>
      obtain ⟨first, hfirst, hconveys⟩ := server.conveys_send state log (Text.encode text)
      have hprint : server.logged.print (state, log) text =
          (server.print state text, log ++ first) := congrArg Prod.fst hfirst
      obtain ⟨answers, heq, hrest⟩ := ih (server.print state text) (log ++ first)
      refine ⟨first ++ answers, ?_, fun h => ?_⟩
      · rw [List.foldl_cons, List.foldl_cons, hprint, heq, List.append_assoc]
      · rw [List.forall_mem_append] at h
        rw [List.flatMap_append, List.flatMap_cons, (hconveys h.1).2, hrest h.2]

end GattServer

namespace Repl

/-! ## Where printed texts go -/

theorem print_of_none {server : GattServer γ} {repl : Repl ε γ δ}
    (hcapture : repl.routing.capture thread = none) (text : String) :
    repl.print server text = repl.deliver server (repl.routing.destination stream, text) := by
  rw [print, Routing.write_of_none hcapture]
  rfl

/-- While the destination is the central, printed texts change the radio alone. -/
theorem printAll_central (server : GattServer γ) (repl : Repl ε γ δ)
    (hcapture : repl.routing.capture thread = none)
    (hdestination : repl.routing.destination stream = .central) (texts : List String) :
    texts.foldl (print server) repl =
      { repl with radio := texts.foldl server.print repl.radio } := by
  induction texts generalizing repl with
  | nil => rfl
  | cons text texts ih =>
      rw [List.foldl_cons, print_of_none hcapture, hdestination]
      exact ih { repl with radio := server.print repl.radio text } hcapture hdestination

/-- While the destination is another, printed texts go there and the radio has no part in it. -/
theorem printAll_elsewhere (server : GattServer γ) (repl : Repl ε γ δ) {original : δ}
    (hcapture : repl.routing.capture thread = none)
    (hdestination : repl.routing.destination stream = .elsewhere original) (texts : List String) :
    texts.foldl (print server) repl =
      { repl with written := repl.written ++ texts.map fun text => (original, text) } := by
  induction texts generalizing repl with
  | nil => simp
  | cons text texts ih =>
      rw [List.foldl_cons, print_of_none hcapture, hdestination]
      refine (ih (deliver server repl (.elsewhere original, text)) hcapture hdestination).trans ?_
      simp only [deliver, List.append_assoc, List.map_cons, List.singleton_append]

/-! ## What a run tells -/

/-- Tells the central texts in order and stops at the first that fails. -/
def tellAll (server : GattServer γ) : Repl ε γ δ → List String → Radioed ε γ δ
  | repl, [] => (repl, .ok ())
  | repl, text :: rest =>
    match repl.tell server text with
    | (repl, .ok ()) => tellAll server repl rest
    | failed => failed

/-- What the central is told once a script has ended. -/
def report : Except CellFault Unit → List String
  | .ok _ => [prompt]
  | .error fault => [failureReport fault, prompt]

/-- A run tells a report once its script has ended. -/
theorem run_eq_tellAll (server : GattServer γ) (evaluator : Evaluator ε ν) (repl : Repl ε γ δ) :
    repl.run server evaluator =
      tellAll server (repl.afterScript server evaluator)
        (report (evaluator.run repl.environment (Text.decodeLossy repl.input)).outcome) := by
  have hlast (repl : Repl ε γ δ) (text : String) :
      tellAll server repl [text] = repl.tell server text := by
    rw [tellAll]
    rcases repl.tell server text with ⟨told, fault | ⟨⟩⟩ <;> rfl
  rw [run]
  cases (evaluator.run repl.environment (Text.decodeLossy repl.input)).outcome with
  | ok => exact (hlast _ prompt).symm
  | error fault =>
      rw [report, tellAll]
      simp only [hlast]
      rw [afterScript]
      rcases tell server _ (failureReport fault) with ⟨told, failed | ⟨⟩⟩ <;> rfl

/-- To tell the central texts changes nothing but the radio. -/
theorem fst_tellAll (server : GattServer γ) (repl : Repl ε γ δ) (texts : List String) :
    (tellAll server repl texts).1 = { repl with radio := (tellAll server repl texts).1.radio } := by
  induction texts generalizing repl with
  | nil => rfl
  | cons text texts ih =>
      rw [tellAll]
      rcases htold : repl.tell server text with ⟨told, fault | ⟨⟩⟩
      all_goals obtain ⟨rfl, -⟩ := Prod.mk.inj htold
      · rfl
      · exact ih _

/-- A REPL whose radio keeps its answers, after those of a log. -/
def withLog (repl : Repl ε γ δ) (log : List Answer) : Repl ε (γ × List Answer) δ :=
  { repl with radio := (repl.radio, log) }

/-- Texts told to the central come to the same where answers are kept.  If these are all favourable
the telling succeeds, and the central has been notified of the texts. -/
theorem exists_tellAll_logged (server : GattServer γ) (repl : Repl ε γ δ) (log : List Answer)
    (texts : List String) :
    ∃ answers, tellAll server.logged (repl.withLog log) texts =
        ((tellAll server repl texts).1.withLog (log ++ answers), (tellAll server repl texts).2) ∧
      ((∀ answer ∈ answers, answer.isFavourable) →
        (tellAll server repl texts).2 = .ok () ∧
          answers.flatMap Answer.octets = texts.flatMap Text.encode) := by
  induction texts generalizing repl log with
  | nil => exact ⟨[], by rw [List.append_nil]; rfl, fun _ => ⟨rfl, rfl⟩⟩
  | cons text texts ih =>
      obtain ⟨first, hfirst, hconveys⟩ := server.conveys_send repl.radio log (Text.encode text)
      have htell : tell server.logged (repl.withLog log) text =
          ((repl.tell server text).1.withLog (log ++ first), (repl.tell server text).2) := by
        rw [tell, GattServer.sendText]
        exact congrArg (fun sent => ({ repl.withLog log with radio := sent.1 }, sent.2)) hfirst
      have hok : (repl.tell server text).2 = (server.send repl.radio (Text.encode text)).2 := rfl
      rw [tellAll, tellAll, htell]
      rw [← hok] at hconveys
      rcases htold : repl.tell server text with ⟨told, fault | ⟨⟩⟩
      all_goals rw [htold] at hconveys
      · exact ⟨first, rfl, fun h => nomatch (hconveys h).1⟩
      · obtain ⟨answers, heq, hrest⟩ := ih told (log ++ first)
        refine ⟨first ++ answers, ?_, fun h => ?_⟩
        · rw [← List.append_assoc]
          exact heq
        · rw [List.forall_mem_append] at h
          obtain ⟨hlast, hoctets⟩ := hrest h.2
          refine ⟨hlast, ?_⟩
          rw [List.flatMap_append, List.flatMap_cons, (hconveys h.1).2, hoctets]

end Repl

/-! ## Runs -/

/-- What is left of a RUN whose script came to `called`, once the central has been told `told` after
it: the script's environment, no input, and the protocol as it was.  While active, the central has
been notified of the printed texts and of what it was told, and nothing has gone elsewhere; while
idle, of what it was told alone, and the printed texts have gone to the original destination. -/
structure Reported (original : δ) (repl : Repl ε γ δ) (called : Called ε Unit) (told : List String)
    (notified : Bytes) (after : Repl ε γ δ) : Prop where
  state_eq : after.state = repl.state
  saved_eq : after.saved = repl.saved
  routing_eq : after.routing = repl.routing
  input_eq : after.input = []
  environment_eq : after.environment = called.environment
  active : repl.state = .active →
    notified = (called.printed ++ told).flatMap Text.encode ∧ after.written = repl.written
  idle : repl.state = .idle →
    notified = told.flatMap Text.encode ∧
      after.written = repl.written ++ called.printed.map fun text => (original, text)

/-- To tell more changes nothing else. -/
theorem Reported.tellAll {original : δ} {repl ended : Repl ε γ δ} {called : Called ε Unit}
    {notified : Bytes} (h : Reported original repl called [] notified ended)
    (server : GattServer γ) (texts : List String) :
    Reported original repl called texts (notified ++ texts.flatMap Text.encode)
      (ended.tellAll server texts).1 := by
  rw [Repl.fst_tellAll]
  refine ⟨h.state_eq, h.saved_eq, h.routing_eq, h.input_eq, h.environment_eq,
    fun hactive => ?_, fun hidle => ?_⟩
  · obtain ⟨hnotified, hwritten⟩ := h.active hactive
    rw [hnotified, List.append_nil, ← List.flatMap_append]
    exact ⟨rfl, hwritten⟩
  · obtain ⟨hnotified, hwritten⟩ := h.idle hidle
    rw [hnotified]
    exact ⟨rfl, hwritten⟩

/-- A script comes to the same where answers are kept, and if they are all favourable its texts have
gone where the outlet leads. -/
theorem exists_afterScript_logged (server : GattServer γ) (evaluator : Evaluator ε ν)
    {repl : Repl ε γ δ} {original : δ}
    (hrouted : Outlet.Routed (.elsewhere original) repl.outlet)
    (hcapture : repl.routing.capture Repl.thread = none) :
    ∃ answers, (repl.withLog []).afterScript server.logged evaluator =
        (repl.afterScript server evaluator).withLog answers ∧
      ((∀ answer ∈ answers, answer.isFavourable) →
        Reported original repl (evaluator.run repl.environment (Text.decodeLossy repl.input)) []
          (answers.flatMap Answer.octets) (repl.afterScript server evaluator)) := by
  rw [Repl.afterScript, Repl.afterScript]
  rcases hrouted.eq_idle_or_active with houtlet | houtlet
  all_goals
    have hstate := congrArg Outlet.state houtlet
    have hdestination := congrArg Outlet.destination houtlet
  · -- The radio is asked nothing.
    rw [Repl.printAll_elsewhere server { repl with input := [] } hcapture hdestination,
      Repl.printAll_elsewhere server.logged { repl.withLog [] with input := [] } hcapture
        hdestination]
    exact ⟨[], rfl, fun _ => ⟨rfl, rfl, rfl, rfl, rfl,
      (fun hactive => nomatch hactive.symm.trans hstate), fun _ => ⟨rfl, rfl⟩⟩⟩
  · obtain ⟨answers, heq, hprinted⟩ := server.exists_printAll_logged repl.radio []
      (evaluator.run repl.environment (Text.decodeLossy repl.input)).printed
    rw [Repl.printAll_central server { repl with input := [] } hcapture hdestination,
      Repl.printAll_central server.logged { repl.withLog [] with input := [] } hcapture
        hdestination]
    refine ⟨answers, ?_, fun hfavourable => ⟨rfl, rfl, rfl, rfl, rfl, fun _ => ⟨?_, rfl⟩,
      fun hidle => nomatch hidle.symm.trans hstate⟩⟩
    · simp only [Repl.withLog, heq, List.nil_append]
    · rw [hprinted hfavourable, List.append_nil]

/-- From where a REPL is new, as long as nobody else replaces the destination of its stream: if
nothing is captured on its thread, the central is there and no notification fails, a RUN succeeds
whatever follows the command, and is reported in band, whether its script fails or not. -/
theorem run_reported {server : GattServer γ} {evaluator : Evaluator ε ν} {radio : γ}
    {routing : Routing (Destination δ)} {deviceName : String} {original : δ} {repl : Repl ε γ δ}
    (horiginal : routing.destination Repl.stream = .elsewhere original)
    (h : Reachable server evaluator (.new evaluator radio routing deviceName) repl)
    (hcapture : repl.routing.capture Repl.thread = none) (payload : Bytes) :
    let called := evaluator.run repl.environment (Text.decodeLossy repl.input)
    let handled := repl.handleWrite server evaluator (Command.run.octet :: payload)
    ∃ answers, (repl.withLog []).handleWrite server.logged evaluator
        (Command.run.octet :: payload) = (handled.1.withLog answers, handled.2) ∧
      ((∀ answer ∈ answers, answer.isFavourable) →
        handled.2 = .ok () ∧
          Reported original repl called (Repl.report called.outcome)
            (answers.flatMap Answer.octets) handled.1) := by
  intro called handled
  have hrouted : Outlet.Routed (.elsewhere original) repl.outlet := horiginal ▸ h.routed
  have hhandled : handled = Repl.tellAll server (repl.afterScript server evaluator)
      (Repl.report called.outcome) := repl.run_eq_tellAll server evaluator
  have hlogged : (repl.withLog []).handleWrite server.logged evaluator
      (Command.run.octet :: payload) = Repl.tellAll server.logged
        ((repl.withLog []).afterScript server.logged evaluator) (Repl.report called.outcome) :=
    (repl.withLog []).run_eq_tellAll server.logged evaluator
  obtain ⟨first, hscript, hprinted⟩ := exists_afterScript_logged server evaluator hrouted hcapture
  obtain ⟨answers, heq, htold⟩ := Repl.exists_tellAll_logged server
    (repl.afterScript server evaluator) first (Repl.report called.outcome)
  rw [hlogged, hscript, heq, hhandled]
  refine ⟨first ++ answers, rfl, fun hfavourable => ?_⟩
  rw [List.forall_mem_append] at hfavourable
  obtain ⟨hok, hnotified⟩ := htold hfavourable.2
  rw [List.flatMap_append, hnotified]
  exact ⟨hok, (hprinted hfavourable.1).tellAll server _⟩

/-- After START and a write of input, on a radio that can notify just often enough: a RUN with a
payload, of a script that prints twice and fails, succeeds, and the central is notified of both
texts, the failure and the prompt, and nobody else of anything. -/
theorem run_reported_simulated :
    let evaluator : Evaluator Nat Unit :=
      ⟨0, fun count source => ⟨count + 1, [source, "µ"], .error (.execution "off")⟩,
        fun count _ => ⟨count, [], .ok none⟩⟩
    let routing : Routing (Destination Unit) := .start fun _ => .elsewhere ()
    ∃ repl : Repl Nat SimulatedRadio Unit,
      Reachable SimulatedRadio.server evaluator (.new evaluator { budget := some 5 } routing "a")
        repl ∧ repl.state = .active ∧
      (repl.handleWrite SimulatedRadio.server evaluator [Command.run.octet, 0x07]).2 = .ok () ∧
      (repl.handleWrite SimulatedRadio.server evaluator [Command.run.octet, 0x07]).1.written = [] ∧
      (repl.handleWrite SimulatedRadio.server evaluator [Command.run.octet, 0x07]).1.environment =
        1 ∧
      ((repl.withLog []).handleWrite SimulatedRadio.server.logged evaluator
          [Command.run.octet, 0x07]).1.radio.2.flatMap Answer.octets =
        Text.encode "xµError: execution error: off\r\n>>> " := by
  intro evaluator routing
  let first : Repl Nat SimulatedRadio Unit := .new evaluator { budget := some 5 } routing "a"
  let started := (first.perform SimulatedRadio.server evaluator (.write [0x02])).1
  let filled := (started.perform SimulatedRadio.server evaluator (.write [0x06, 0x78])).1
  have hreachable : Reachable SimulatedRadio.server evaluator first filled :=
    .tail (.single (.callback (.write [0x02]))) (.callback (.write [0x06, 0x78]))
  obtain ⟨answers, hlogged, hreported⟩ := run_reported rfl hreachable rfl [0x07]
  have hanswers : ((filled.withLog []).handleWrite SimulatedRadio.server.logged evaluator
      [Command.run.octet, 0x07]).1.radio.2 = answers :=
    congrArg (fun handled => handled.1.radio.2) hlogged
  have hfavourable : ∀ answer ∈ answers, answer.isFavourable := by
    rw [← hanswers]
    decide +kernel
  obtain ⟨houtcome, hran⟩ := hreported hfavourable
  obtain ⟨hnotified, hwritten⟩ := hran.active rfl
  have hinput : Text.decodeLossy filled.input = "x" := by decide
  have htold : ([Text.decodeLossy filled.input, "µ"] ++
      Repl.report (.error (.execution "off"))).flatMap Text.encode =
        Text.encode "xµError: execution error: off\r\n>>> " := by
    rw [hinput]
    decide
  refine ⟨filled, hreachable, rfl, houtcome, hwritten, ?_, ?_⟩
  · exact hran.environment_eq
  · rw [hanswers]
    exact hnotified.trans htold

end Cellbook.Radio
