import Cellbook.Proofs.Engine.Registry
import Cellbook.Proofs.Output.Redirections
import Mathlib.Data.List.Induction
import Mathlib.Logic.Function.Basic

/-!
# Runs on many threads

Threads that run cells of one engine and write on its stream, in single steps that may fall in any
order.  A run looks its environment up, waits until it has the environment for itself, puts a
capture in place on its thread, prints one text after another, shows its result, and puts back what
was in place before.  A blank cell is over with the lookup, and a panic ends a run anywhere.  In
between a thread writes on the stream as it likes, and anyone may replace the stream's sink.

A run hands its texts to the stream and knows nothing of where they go; what becomes of them is in
the hands of the routing.  `Account` is what should become of them, by the events alone.
-/

namespace Cellbook

open Output (Routing Guard Capture ThreadId StreamId Sink)

variable {ε ν σ κ : Type}

/-- What is left to do of a cell when its texts are printed: its value is sent, if it has one. -/
def Called.conclude [Represent ν] (called : Called ε (Option ν)) (channel : Channel σ)
    (printing : Printing σ) : Executed ε σ :=
  match called.outcome with
  | .error fault => ⟨called.environment, printing.state, .error fault⟩
  | .ok none => ⟨called.environment, printing.state, .ok ()⟩
  | .ok (some value) =>
    let (state, sent) := (encode value).writeTo channel printing.state
    ⟨called.environment, state, sent.mapError .channel⟩

theorem Called.deliver_eq_conclude [Represent ν] (called : Called ε (Option ν))
    (channel : Channel σ) (printing : Printing σ) :
    called.deliver channel printing =
      called.conclude channel (printing.printAll channel called.printed) := rfl

/-! ## Threads and runs -/

namespace Parallel

/-- A call for a run, with a channel of its own. -/
structure Request (σ : Type) where
  id : NotebookId
  source : String
  channel : Channel σ
  /-- The state of the channel before the run. -/
  start : σ

/-- A run that was called for. -/
structure Running (σ : Type) where
  request : Request σ
  /-- The run's channel, as its printing sees it. -/
  printing : Printing σ
  /-- How it ended, unless it goes on or a panic ended it. -/
  outcome : Option (Except CellFault Unit)

namespace Running

/-- A run of which nothing is done. -/
def new (request : Request σ) : Running σ := ⟨request, ⟨request.start, false⟩, none⟩

variable (run : Running σ)

/-- A text comes to the run's channel. -/
def hear (text : String) : Running σ :=
  { run with printing := run.printing.print run.request.channel text }

/-- The run shows its result and ends. -/
def conclude [Represent ν] (cell : Called ε (Option ν)) : Running σ :=
  let executed := cell.conclude run.request.channel run.printing
  { run with
    printing := ⟨executed.state, run.printing.broken⟩
    outcome := some executed.outcome }

/-- The run ends with nothing done. -/
def concludeBlank : Running σ := { run with outcome := some (.ok ()) }

end Running

/-- Where a thread is. -/
inductive Place (ε ν κ : Type) where
  /-- In no run. -/
  | outside
  /-- In a run that has looked its environment up. -/
  | waiting (number : Nat) (handle : Handle) (source : String)
  /-- In a run that has its environment for itself and its capture in place: what its cell comes to,
  and the texts that are yet to be printed. -/
  | inside (number : Nat) (handle : Handle) (guard : Guard (Sink κ)) (cell : Called ε (Option ν))
      (ahead : List String)
  /-- In a run that has ended and not yet put back what was in place before. -/
  | leaving (number : Nat) (handle : Handle) (guard : Guard (Sink κ))

/-- The environment that a thread has for itself. -/
def Place.handle? : Place ε ν κ → Option Handle
  | .outside | .waiting .. => none
  | .inside _ handle .. | .leaving _ handle _ => some handle

end Parallel

/-- An engine, the routing of its stream, and the threads on which it is used. -/
structure Parallel (ε ν σ κ : Type) where
  engine : Engine ε ν
  routing : Routing (Sink κ)
  place : ThreadId → Parallel.Place ε ν κ
  /-- The runs that were called for, by their numbers. -/
  runs : List (Parallel.Running σ)
  /-- What sinks of the stream have received, in order. -/
  received : List (κ × String)

namespace Parallel

/-- The stream that scripts print on. -/
def stream : StreamId := 0

/-- An engine that no thread uses, and a sink of its stream. -/
def new (engine : Engine ε ν) (sink : κ) : Parallel ε ν σ κ :=
  ⟨engine, .start fun _ => .shared sink, fun _ => .outside, [], []⟩

variable (now : Parallel ε ν σ κ)

/-- The state with a thread at another place. -/
def put (thread : ThreadId) (place : Place ε ν κ) : Parallel ε ν σ κ :=
  { now with place := Function.update now.place thread place }

@[simp] theorem place_put_self (thread : ThreadId) (place : Place ε ν κ) :
    (now.put thread place).place thread = place := Function.update_self ..

theorem place_put_of_ne {thread other : ThreadId} (h : other ≠ thread) (place : Place ε ν κ) :
    (now.put thread place).place other = now.place other := Function.update_of_ne h ..

/-- A text comes to a sink. -/
def deliver (now : Parallel ε ν σ κ) : Sink κ × String → Parallel ε ν σ κ
  | (.own number, text) => { now with runs := now.runs.modify number fun run => run.hear text }
  | (.shared sink, text) => { now with received := now.received ++ [(sink, text)] }

/-- A thread writes a text on the stream. -/
def write (thread : ThreadId) (text : String) : Parallel ε ν σ κ :=
  (now.routing.write thread stream text).foldl deliver now

/-- A thread calls for a run, which looks its environment up. -/
def call (thread : ThreadId) (request : Request σ) : Parallel ε ν σ κ :=
  let (engine, handle) := now.engine.lookUp request.id
  { now with engine := engine, runs := now.runs ++ [Running.new request] }.put thread
    (.waiting now.runs.length handle request.source)

/-- A run gets its environment for itself and puts its capture in place. -/
def enter (thread : ThreadId) (number : Nat) (handle : Handle) (source : String) :
    Parallel ε ν σ κ :=
  let (routing, guard) := now.routing.redirect thread (.plain (.own number))
  let cell := now.engine.evaluator.callCell (CellParts.ofSource source)
    (now.engine.environment handle)
  { now with routing := routing }.put thread (.inside number handle guard cell cell.printed)

/-- A run whose texts are all printed shows its result and leaves its environment as its
cell does. -/
def finish [Represent ν] (thread : ThreadId) (number : Nat) (handle : Handle)
    (guard : Guard (Sink κ)) (cell : Called ε (Option ν)) : Parallel ε ν σ κ :=
  { now with
    engine := now.engine.setEnvironment handle cell.environment
    runs := now.runs.modify number fun run => run.conclude cell }.put thread
    (.leaving number handle guard)

/-- A run puts back what was in place before it, and is over. -/
def leave (thread : ThreadId) (guard : Guard (Sink κ)) : Parallel ε ν σ κ :=
  { now with routing := now.routing.drop guard }.put thread .outside

/-- The run of a blank cell is over. -/
def leaveBlank (thread : ThreadId) (number : Nat) : Parallel ε ν σ κ :=
  { now with runs := now.runs.modify number Running.concludeBlank }.put thread .outside

/-- A panic ends a run, which leaves whatever environment it had come to. -/
def unwind (thread : ThreadId) (handle : Handle) (guard : Guard (Sink κ)) (environment : ε) :
    Parallel ε ν σ κ :=
  { now with engine := now.engine.setEnvironment handle environment }.leave thread guard

/-- The sink of the stream is replaced. -/
def replace (sink : κ) : Parallel ε ν σ κ :=
  { now with routing := (now.routing.replace stream (.shared sink)).1 }

/-! A text that is written comes to one sink. -/

section Write

variable {now} {thread : ThreadId}

/-- What a run prints under its capture comes to its channel. -/
theorem routing_write_of_plain {number : Nat}
    (h : now.routing.capture thread = some (.plain (.own number))) (text : String) :
    now.routing.write thread stream text = [(.own number, text)] :=
  Routing.write_of_some h stream text

theorem write_of_plain {number : Nat}
    (h : now.routing.capture thread = some (.plain (.own number))) (text : String) :
    now.write thread text =
      { now with runs := now.runs.modify number fun run => run.hear text } := by
  rw [write, routing_write_of_plain h]
  rfl

/-- What is written without a capture comes to the sink of the stream. -/
theorem routing_write_of_none {sink : κ} (h : now.routing.capture thread = none)
    (hsink : now.routing.destination stream = .shared sink) (text : String) :
    now.routing.write thread stream text = [(.shared sink, text)] := by
  rw [Routing.write_of_none h, hsink]

theorem write_of_none {sink : κ} (h : now.routing.capture thread = none)
    (hsink : now.routing.destination stream = .shared sink) (text : String) :
    now.write thread text = { now with received := now.received ++ [(sink, text)] } := by
  rw [write, routing_write_of_none h hsink]
  rfl

end Write

/-! ## Steps -/

/-- What may be seen of a step. -/
inductive Event (σ κ : Type) where
  | call (thread : ThreadId) (request : Request σ)
  | enter (thread : ThreadId)
  | write (thread : ThreadId) (text : String)
  | finish (thread : ThreadId)
  /-- The run of a thread is over. -/
  | leave (thread : ThreadId)
  | replace (sink : κ)

namespace Event

/-- The run that is called for. -/
def request? : Event σ κ → Option (Request σ)
  | .call _ request => some request
  | _ => none

/-- The text that is written. -/
def text? : Event σ κ → Option String
  | .write _ text => some text
  | _ => none

end Event

/-- What a thread may do next. -/
inductive Step [Represent ν] : Event σ κ → Parallel ε ν σ κ → Prop
  | call {thread : ThreadId} (h : now.place thread = .outside) (request : Request σ) :
      Step (.call thread request) (now.call thread request)
  | enter {thread : ThreadId} {number : Nat} {handle : Handle} {source : String}
      (h : now.place thread = .waiting number handle source)
      (hcell : (CellParts.ofSource source).isEmpty = false)
      (hfree : ∀ other, (now.place other).handle? ≠ some handle) :
      Step (.enter thread) (now.enter thread number handle source)
  /-- A run prints its next text. -/
  | print {thread : ThreadId} {number : Nat} {handle : Handle} {guard : Guard (Sink κ)}
      {cell : Called ε (Option ν)} {text : String} {ahead : List String}
      (h : now.place thread = .inside number handle guard cell (text :: ahead)) :
      Step (.write thread text)
        ((now.write thread text).put thread (.inside number handle guard cell ahead))
  /-- A thread that is in no run writes any text. -/
  | write {thread : ThreadId} (h : now.place thread = .outside) (text : String) :
      Step (.write thread text) (now.write thread text)
  | finish {thread : ThreadId} {number : Nat} {handle : Handle} {guard : Guard (Sink κ)}
      {cell : Called ε (Option ν)} (h : now.place thread = .inside number handle guard cell []) :
      Step (.finish thread) (now.finish thread number handle guard cell)
  | leave {thread : ThreadId} {number : Nat} {handle : Handle} {guard : Guard (Sink κ)}
      (h : now.place thread = .leaving number handle guard) :
      Step (.leave thread) (now.leave thread guard)
  | leaveBlank {thread : ThreadId} {number : Nat} {handle : Handle} {source : String}
      (h : now.place thread = .waiting number handle source)
      (hblank : (CellParts.ofSource source).isEmpty = true) :
      Step (.leave thread) (now.leaveBlank thread number)
  | unwind {thread : ThreadId} {number : Nat} {handle : Handle} {guard : Guard (Sink κ)}
      {cell : Called ε (Option ν)} {ahead : List String}
      (h : now.place thread = .inside number handle guard cell ahead) (environment : ε) :
      Step (.leave thread) (now.unwind thread handle guard environment)
  | replace (sink : κ) : Step (.replace sink) (now.replace sink)

/-- Steps one after another, in whatever order the threads take them. -/
inductive Course [Represent ν] (first : Parallel ε ν σ κ) :
    List (Event σ κ) → Parallel ε ν σ κ → Prop
  | nil : Course first [] first
  | concat {events : List (Event σ κ)} {now next : Parallel ε ν σ κ} {event : Event σ κ}
      (h : Course first events now) (hstep : now.Step event next) :
      Course first (events ++ [event]) next

/-! A run that no other step falls into is a run of the engine. -/

section Uninterrupted

variable [Represent ν] {now} {first next : Parallel ε ν σ κ}

theorem Course.trans {events more : List (Event σ κ)} (h : Course first events now)
    (hmore : Course now more next) : Course first (events ++ more) next := by
  induction hmore with
  | nil => rwa [List.append_nil]
  | concat _ hstep ih =>
      rw [← List.append_assoc]
      exact ih.concat hstep

theorem Step.course {event : Event σ κ} (h : now.Step event next) : Course now [event] next :=
  Course.nil.concat h

/-- A run prints its texts one after another. -/
theorem course_print {thread : ThreadId} {number : Nat} {handle : Handle} {guard : Guard (Sink κ)}
    {cell : Called ε (Option ν)} {ahead : List String}
    (hplace : now.place thread = .inside number handle guard cell ahead)
    (hcapture : now.routing.capture thread = some (.plain (.own number))) :
    Course now (ahead.map (.write thread)) ({ now with
      runs := now.runs.modify number fun run => { run with
        printing := run.printing.printAll run.request.channel ahead } }.put thread
          (.inside number handle guard cell [])) := by
  induction ahead generalizing now with
  | nil =>
      have hsame : ({ now with
          runs := now.runs.modify number fun run => { run with
            printing := run.printing.printAll run.request.channel [] } }.put thread
              (.inside number handle guard cell [])) = now := by
        rw [put, ← hplace, Function.update_eq_self]
        exact congrArg (fun runs => { now with runs := runs }) (List.modify_id number now.runs)
      exact hsame.symm ▸ Course.nil
  | cons text ahead ih =>
      have hnext := Step.print hplace
      rw [write_of_plain hcapture] at hnext
      have hrest := hnext.course.trans (ih (Function.update_self ..) hcapture)
      simp only [put, Function.update_idem, List.modify_modify_eq] at hrest
      exact hrest

/-- A run prints what it has yet to print, shows its result and leaves. -/
theorem exists_course_finish {thread : ThreadId} {number : Nat} {handle : Handle}
    {guard : Guard (Sink κ)} {cell : Called ε (Option ν)} {ahead : List String}
    (hplace : now.place thread = .inside number handle guard cell ahead)
    (hcapture : now.routing.capture thread = some (.plain (.own number))) :
    ∃ events, Course now events { now with
      engine := now.engine.setEnvironment handle cell.environment
      routing := now.routing.drop guard
      place := Function.update now.place thread .outside
      runs := now.runs.modify number fun run => { run with
        printing := run.printing.printAll run.request.channel ahead }.conclude cell } := by
  have hprinted := course_print hplace hcapture
  have hfinished := hprinted.concat (Step.finish (place_put_self ..))
  have hleft := hfinished.concat (Step.leave (place_put_self ..))
  simp only [leave, finish, put, Function.update_idem, List.modify_modify_eq] at hleft
  exact ⟨_, hleft⟩

/-- The last of a list is changed. -/
theorem modify_concat {α : Type} (change : α → α) (list : List α) (last : α) :
    (list ++ [last]).modify list.length change = list ++ [change last] :=
  List.modifyTailIdx_add (List.modifyHead change) 0 list [last]

/-- A run that no other step falls into, from the call to the end: the threads and the routing are
as they were, and the engine and the run's channel are as a run of the engine leaves them. -/
theorem exists_course_run {thread : ThreadId} (hplace : now.place thread = .outside)
    (request : Request σ)
    (hfree : ∀ other, (now.place other).handle? ≠ some (now.engine.lookUp request.id).2) :
    let ran := now.engine.run request.channel request.id request.source request.start
    ∃ events broken, Course now events { now with
      engine := ran.1
      runs := now.runs ++ [⟨request, ⟨ran.2.1, broken⟩, some ran.2.2⟩] } := by
  intro ran
  have hran : ran = (now.engine.lookUp request.id).1.executeAt request.channel
      (now.engine.lookUp request.id).2 request.source request.start := rfl
  rw [(now.engine.lookUp request.id).1.executeAt_eq] at hran
  have hcalled := (Step.call hplace request).course
  have houtside : Function.update now.place thread .outside = now.place := by
    rw [← hplace, Function.update_eq_self]
  rcases hblank : (CellParts.ofSource request.source).isEmpty with _ | _
  · have hwaits : (now.call thread request).place thread = .waiting now.runs.length
        (now.engine.lookUp request.id).2 request.source := place_put_self ..
    have hentered := hcalled.concat (Step.enter hwaits hblank fun other => by
      by_cases hother : other = thread
      · rw [hother, hwaits]
        exact nofun
      · exact (place_put_of_ne _ hother _).symm ▸ hfree other)
    have hinside : ((now.call thread request).enter thread now.runs.length
        (now.engine.lookUp request.id).2 request.source).place thread = _ := place_put_self ..
    obtain ⟨events, hcourse⟩ := exists_course_finish hinside (Routing.capture_setCapture_self ..)
    have hall := hentered.trans hcourse
    simp only [enter, call, put, Function.update_idem, houtside, modify_concat] at hall
    have hrouting : (now.routing.redirect thread (.plain (.own now.runs.length))).1.drop
        ⟨thread, now.routing.capture thread⟩ = now.routing := now.routing.drop_redirect thread _
    rw [hrouting] at hall
    simp only [Evaluator.executeIn, Called.deliver_environment] at hran
    rw [hran]
    exact ⟨_, _, hall⟩
  · have hcourse := hcalled.concat (Step.leaveBlank (place_put_self ..) hblank)
    simp only [Evaluator.executeIn_of_isEmpty _ _ _ hblank,
      Engine.setEnvironment_environment] at hran
    simp only [leaveBlank, call, put, Function.update_idem, houtside, modify_concat] at hcourse
    rw [hran]
    exact ⟨_, _, hcourse⟩

end Uninterrupted

/-! ## Accounts -/

/-- What should become of texts, by the events alone. -/
structure Account (κ : Type) where
  /-- The run that is in progress on a thread. -/
  current : ThreadId → Option Nat
  /-- How many runs were called for. -/
  called : Nat
  /-- The sink of the stream. -/
  sink : κ
  /-- The texts written, each with the one sink it belongs to, in order. -/
  texts : List (Sink κ × String)

namespace Account

/-- No run in progress and no text written. -/
def start (sink : κ) : Account κ := ⟨fun _ => none, 0, sink, []⟩

variable (account : Account κ)

/-- A text belongs to the run that is in progress on its thread, or else to the stream's sink. -/
def owner (thread : ThreadId) : Sink κ :=
  match account.current thread with
  | some number => .own number
  | none => .shared account.sink

/-- What an event adds: a run is in progress on its thread from the call to the end. -/
def add (account : Account κ) : Event σ κ → Account κ
  | .call thread _ =>
    { account with
      current := Function.update account.current thread (some account.called)
      called := account.called + 1 }
  | .write thread text => { account with texts := account.texts ++ [(account.owner thread, text)] }
  | .leave thread => { account with current := Function.update account.current thread none }
  | .replace sink => { account with sink := sink }
  | .enter _ | .finish _ => account

/-- The account of events that begin with no run in progress. -/
def ofEvents (sink : κ) (events : List (Event σ κ)) : Account κ := events.foldl add (start sink)

/-- The texts that belong to a run, in order. -/
def printed (number : Nat) : List String :=
  account.texts.filterMap fun
    | (.own owner, text) => if owner = number then some text else none
    | (.shared _, _) => none

/-- The texts that belong to sinks of the stream, in order, each with its sink. -/
def written : List (κ × String) :=
  account.texts.filterMap fun
    | (.own _, _) => none
    | (.shared sink, text) => some (sink, text)

theorem ofEvents_concat (sink : κ) (events : List (Event σ κ)) (event : Event σ κ) :
    ofEvents sink (events ++ [event]) = (ofEvents sink events).add event :=
  List.foldl_append

/-- Every text written belongs to one sink. -/
theorem texts_ofEvents (sink : κ) (events : List (Event σ κ)) :
    (ofEvents sink events).texts.map Prod.snd = events.filterMap Event.text? := by
  induction events using List.reverseRecOn with
  | nil => rfl
  | append_singleton events event ih =>
      rw [ofEvents_concat, List.filterMap_append, ← ih]
      cases event with
      | write thread text => exact List.map_append
      | _ => exact (List.append_nil _).symm

section Write

variable {account} {thread : ThreadId}

theorem owner_of_some {number : Nat} (h : account.current thread = some number) :
    account.owner thread = .own number := by
  rw [owner, h]

theorem owner_of_none (h : account.current thread = none) :
    account.owner thread = .shared account.sink := by
  rw [owner, h]

/-- A text that is written in a run belongs to the run. -/
theorem printed_write_of_some {number : Nat} (h : account.current thread = some number)
    (text : String) (other : Nat) :
    (account.add (.write thread text : Event σ κ)).printed other =
      if number = other then account.printed other ++ [text] else account.printed other := by
  rw [printed, add, owner_of_some h, List.filterMap_append]
  split
  · next heq => simp [printed, heq]
  · next hne => simp [printed, hne]

theorem written_write_of_some {number : Nat} (h : account.current thread = some number)
    (text : String) :
    (account.add (.write thread text : Event σ κ)).written = account.written := by
  rw [written, add, owner_of_some h, List.filterMap_append]
  exact List.append_nil _

/-- A text that is written in no run belongs to the sink of the stream. -/
theorem printed_write_of_none (h : account.current thread = none) (text : String) (number : Nat) :
    (account.add (.write thread text : Event σ κ)).printed number = account.printed number := by
  rw [printed, add, owner_of_none h, List.filterMap_append]
  exact List.append_nil _

theorem written_write_of_none (h : account.current thread = none) (text : String) :
    (account.add (.write thread text : Event σ κ)).written =
      account.written ++ [(account.sink, text)] := by
  rw [written, add, owner_of_none h, List.filterMap_append]
  rfl

end Write

end Account

end Parallel

end Cellbook
