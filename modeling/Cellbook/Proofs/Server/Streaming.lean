import Cellbook.Server.Router
import Cellbook.Proofs.Engine.Framing
import Mathlib.Logic.Relation

/-!
# The answer to a cell that runs

A cell is run by a worker, which pushes what the cell sends into a queue of limited room, while the
handler takes the first item out, to decide the status, and the body of the response the others.
The two go on in any order, as far as the room and the items in the queue let them
(`Exchange.Step`).

Whatever the order, they come to the same answer, that of the items as if they had all been there at
once (`Exchange.Sound`): an error if the run failed and sent nothing, and else a stream of its
sends, which breaks off if the run failed.
-/

namespace Cellbook.Server

variable {ε ν σ τ : Type}

/-! ## What a run pushes -/

namespace Queue

theorem receive?_eq_none {queue : Queue} (h : queue.receive? = none) : queue.items = [] := by
  rcases queue with ⟨_ | ⟨item, items⟩, connected⟩
  · rfl
  · exact nomatch h

theorem receive?_eq_some {queue rest : Queue} {item : QueueItem}
    (h : queue.receive? = some (item, rest)) :
    queue.items = item :: rest.items ∧ rest.connected = queue.connected := by
  rcases queue with ⟨_ | ⟨item, items⟩, connected⟩
  · exact nomatch h
  · cases h
    exact ⟨rfl, rfl⟩

theorem length_of_receive? {queue rest : Queue} {item : QueueItem}
    (h : queue.receive? = some (item, rest)) :
    queue.items.length = rest.items.length + 1 := by
  rw [(receive?_eq_some h).1, List.length_cons]

/-- A queue takes all that is sent, whatever is in it, as long as there is a client. -/
theorem reliable_channel : Queue.channel.Reliable fun queue => queue.connected = true where
  succeeds := by
    rintro ⟨items, connected⟩ rfl octets
    rfl
  stays := by
    rintro ⟨items, connected⟩ rfl octets
    rfl

/-- A queue keeps all that is sent, after what is in it. -/
theorem sendAll_channel (items : List QueueItem) (sends : List Bytes) :
    Queue.channel.sendAll ⟨items, true⟩ sends = (⟨items ++ sends.map .chunk, true⟩, .ok ()) := by
  induction sends generalizing items with
  | nil => simp [Channel.sendAll]
  | cons octets sends ih =>
      have hsend : Queue.channel.send ⟨items, true⟩ octets =
          (⟨items ++ [.chunk octets], true⟩, .ok ()) := rfl
      rw [Channel.sendAll, hsend]
      refine (ih (items ++ [.chunk octets])).trans ?_
      rw [List.append_assoc]
      rfl

end Queue

/-- What breaks a stream off. -/
def abortOf : Except CellFault Unit → Option ServerFault
  | .ok () => none
  | .error fault => some (.core fault)

/-- The stream of a run breaks off just if the run failed. -/
theorem isSome_abortOf (outcome : Except CellFault Unit) :
    (abortOf outcome).isSome = true ↔ ∃ fault, outcome = .error fault := by
  cases outcome with
  | error fault => exact ⟨fun _ => ⟨fault, rfl⟩, fun _ => rfl⟩
  | ok => simp [abortOf]

/-- What a run pushes into its queue: its sends, and the fault it ends with, if it does. -/
def itemsOf (sends : List Bytes) (outcome : Except CellFault Unit) : List QueueItem :=
  sends.map .chunk ++ (abortOf outcome).toList.map .failure

/-- What a run sends, each send by itself, and how it ends. -/
theorem run_recorder [Represent ν] (engine : Engine ε ν) (id : NotebookId) (source : String) :
    (engine.run Recorder.channel id source (.empty none)).2 =
      (⟨(engine.callCell id source).sends, none⟩,
        (engine.callCell id source).outcome.map fun _ => ()) := by
  rw [engine.run_eq_of_reliable Recorder.faithful_channel.toReliable rfl, Recorder.empty,
    Recorder.sendAll_channel]
  rfl

/-- What a run sends does not depend on what is in the queue as it sends it. -/
theorem run_queue [Represent ν] (engine : Engine ε ν) (id : NotebookId) (source : String)
    (items : List QueueItem) :
    let ran := (engine.run Recorder.channel id source (.empty none)).2
    (engine.run Queue.channel id source ⟨items, true⟩).2 =
      (⟨items ++ ran.1.sends.map .chunk, true⟩, ran.2) := by
  intro ran
  have hran : ran = _ := run_recorder engine id source
  rw [engine.run_eq_of_reliable Queue.reliable_channel rfl, Queue.sendAll_channel, hran]

/-- A worker pushes what the run sends, in order, and at last its fault. -/
theorem items_runIntoQueue [Represent ν] (engine : Engine ε ν) (id : NotebookId) (source : String) :
    let ran := (engine.run Recorder.channel id source (.empty none)).2
    (Service.runIntoQueue engine id source).2.items = itemsOf ran.1.sends ran.2 := by
  intro ran
  have hqueue := run_queue engine id source []
  rw [Service.runIntoQueue]
  rcases hrun : engine.run Queue.channel id source {} with ⟨after, queue, outcome⟩
  rw [hrun] at hqueue
  obtain ⟨rfl, rfl⟩ := Prod.mk.inj hqueue
  dsimp only
  rcases ran.2 with fault | ⟨⟩
  · rfl
  · exact (List.append_nil _).symm

/-- No send of a cell is empty. -/
theorem sends_ne_nil [Represent ν] (called : Called ε (Option ν)) {octets : Bytes}
    (h : octets ∈ called.sends) : octets ≠ [] := by
  rw [Called.sends, List.mem_append] at h
  rcases h with hframe | hvalue
  · obtain ⟨text, -, rfl⟩ := List.mem_map.mp hframe
    rw [encode_frame]
    exact List.append_ne_nil_of_right_ne_nil _ (List.cons_ne_nil _ _)
  · rcases called with ⟨environment, printed, ⟨fault⟩ | ⟨_ | value⟩⟩
    · exact absurd hvalue List.not_mem_nil
    · exact absurd hvalue List.not_mem_nil
    · exact Rendered.sends_ne_nil hvalue

/-! ## Worker, handler and body -/

/-- How far the answer to a cell has come. -/
inductive Answering where
  /-- The handler awaits the first item. -/
  | awaiting
  /-- The status is sent, and these chunks of the body. -/
  | streaming (chunks : List Bytes)
  | done (handled : Handled)

/-- A worker, its queue, and the answer. -/
structure Exchange where
  /-- What the worker has yet to push. -/
  pending : List QueueItem
  queue : Queue
  answering : Answering

namespace Exchange

/-- A response that streams chunks and may then break off. -/
def streamed (chunks : List Bytes) (failure : Option ServerFault) : Handled :=
  .ok ⟨200, [("content-type", jsonType)], .streamed chunks failure⟩

/-- The worker pushes if there is room.  The handler and the body take items as they come, and see
the end once the queue is empty and the worker is done. -/
inductive Step : Exchange → Exchange → Prop
  | push {item : QueueItem} {pending : List QueueItem} {queue : Queue} {answering : Answering}
      (hroom : queue.hasRoom = true) :
      Step ⟨item :: pending, queue, answering⟩ ⟨pending, queue.push item, answering⟩
  | refuse {pending : List QueueItem} {queue rest : Queue} {fault : ServerFault}
      (hitem : queue.receive? = some (.failure fault, rest)) :
      Step ⟨pending, queue, .awaiting⟩ ⟨pending, rest, .done (.error fault)⟩
  | commit {pending : List QueueItem} {queue rest : Queue} {octets : Bytes}
      (hitem : queue.receive? = some (.chunk octets, rest)) :
      Step ⟨pending, queue, .awaiting⟩ ⟨pending, rest, .streaming [octets]⟩
  | commitEmpty {queue : Queue} (hend : queue.receive? = none) :
      Step ⟨[], queue, .awaiting⟩ ⟨[], queue, .streaming []⟩
  | pull {pending : List QueueItem} {queue rest : Queue} {chunks : List Bytes} {octets : Bytes}
      (hitem : queue.receive? = some (.chunk octets, rest)) :
      Step ⟨pending, queue, .streaming chunks⟩ ⟨pending, rest, .streaming (chunks ++ [octets])⟩
  | abort {pending : List QueueItem} {queue rest : Queue} {chunks : List Bytes}
      {fault : ServerFault} (hitem : queue.receive? = some (.failure fault, rest)) :
      Step ⟨pending, queue, .streaming chunks⟩ ⟨pending, rest, .done (streamed chunks (some fault))⟩
  | close {queue : Queue} {chunks : List Bytes} (hend : queue.receive? = none) :
      Step ⟨[], queue, .streaming chunks⟩ ⟨[], queue, .done (streamed chunks none)⟩

/-- What is left to be received of the items fits what has been. -/
def Fits (items left : List QueueItem) : Answering → Prop
  | .awaiting => left = items
  | .streaming chunks => chunks.map .chunk ++ left = items ∧ (chunks = [] → items = [])
  | .done handled => handled = Service.respond items

/-- What every step keeps: nothing is lost or overtakes, and an answer is that to all items. -/
structure Sound (items : List QueueItem) (now : Exchange) : Prop where
  connected : now.queue.connected = true
  fits : Fits items (now.queue.items ++ now.pending) now.answering

theorem streamOf_chunks (chunks : List Bytes) (items : List QueueItem) :
    Service.streamOf (chunks.map .chunk ++ items) =
      (chunks ++ (Service.streamOf items).1, (Service.streamOf items).2) := by
  induction chunks with
  | nil => rfl
  | cons octets chunks ih =>
      rw [List.map_cons, List.cons_append, Service.streamOf, ih]
      rfl

/-- The answer to chunks and what may follow them. -/
theorem respond_chunks {chunks : List Bytes} {items : List QueueItem}
    (h : chunks = [] → items = []) :
    Service.respond (chunks.map .chunk ++ items) =
      streamed (chunks ++ (Service.streamOf items).1) (Service.streamOf items).2 := by
  cases chunks with
  | nil =>
      rw [h rfl]
      rfl
  | cons octets chunks =>
      have hstream := streamOf_chunks (octets :: chunks) items
      exact congrArg (fun stream => streamed stream.1 stream.2) hstream

variable {items : List QueueItem} {now next : Exchange}

/-- A step keeps soundness. -/
theorem Sound.step (h : Sound items now) (hstep : Step now next) : Sound items next := by
  obtain ⟨hconnected, hfits⟩ := h
  cases hstep with
  | @push item pending queue answering hroom =>
      have hpush : queue.push item = { queue with items := queue.items ++ [item] } :=
        if_pos hconnected
      refine ⟨hpush ▸ hconnected, ?_⟩
      rw [hpush]
      simpa using hfits
  | @refuse pending queue rest fault hitem =>
      obtain ⟨hitems, hsame⟩ := Queue.receive?_eq_some hitem
      refine ⟨hsame.trans hconnected, ?_⟩
      rw [← (hfits : queue.items ++ pending = items), hitems]
      rfl
  | @commit pending queue rest octets hitem =>
      obtain ⟨hitems, hsame⟩ := Queue.receive?_eq_some hitem
      refine ⟨hsame.trans hconnected, ?_, fun hnil => nomatch hnil⟩
      rw [← (hfits : queue.items ++ pending = items), hitems]
      rfl
  | @commitEmpty queue hend =>
      have hnil : [] = items := by
        rw [← (hfits : queue.items ++ [] = items), Queue.receive?_eq_none hend]
        rfl
      exact ⟨hconnected, hfits, fun _ => hnil.symm⟩
  | @pull pending queue rest chunks octets hitem =>
      obtain ⟨hitems, hsame⟩ := Queue.receive?_eq_some hitem
      obtain ⟨hleft, -⟩ := hfits
      refine ⟨hsame.trans hconnected, ?_, fun hnil => absurd hnil (by simp)⟩
      rw [← hleft, hitems]
      simp
  | @abort pending queue rest chunks fault hitem =>
      obtain ⟨hitems, hsame⟩ := Queue.receive?_eq_some hitem
      obtain ⟨hleft, hnil⟩ := hfits
      rw [hitems] at hleft
      have hchunks : chunks ≠ [] := by
        intro hchunks
        rw [hnil hchunks, hchunks] at hleft
        exact nomatch hleft
      refine ⟨hsame.trans hconnected, ?_⟩
      rw [← hleft]
      refine ((respond_chunks fun h => absurd h hchunks).trans ?_).symm
      rw [List.cons_append, Service.streamOf, List.append_nil]
  | @close queue chunks hend =>
      obtain ⟨hleft, -⟩ := hfits
      rw [Queue.receive?_eq_none hend] at hleft
      refine ⟨hconnected, ?_⟩
      rw [← hleft]
      refine ((respond_chunks fun _ => rfl).trans ?_).symm
      rw [Service.streamOf, List.append_nil]

/-- Until there is an answer, a step can be taken. -/
theorem exists_step (now : Exchange) :
    (∃ handled, now.answering = .done handled) ∨ ∃ next, Step now next := by
  rcases now with ⟨pending, queue, answering⟩
  rcases hitem : queue.receive? with _ | ⟨item, rest⟩
  · have hroom : queue.hasRoom = true := by
      rw [Queue.hasRoom, Queue.receive?_eq_none hitem]
      rfl
    cases pending with
    | cons item pending => exact .inr ⟨_, .push hroom⟩
    | nil =>
        cases answering with
        | awaiting => exact .inr ⟨_, .commitEmpty hitem⟩
        | streaming chunks => exact .inr ⟨_, .close hitem⟩
        | done handled => exact .inl ⟨handled, rfl⟩
  · cases answering with
    | awaiting =>
        cases item with
        | chunk octets => exact .inr ⟨_, .commit hitem⟩
        | failure fault => exact .inr ⟨_, .refuse hitem⟩
    | streaming chunks =>
        cases item with
        | chunk octets => exact .inr ⟨_, .pull hitem⟩
        | failure fault => exact .inr ⟨_, .abort hitem⟩
    | done handled => exact .inl ⟨handled, rfl⟩

/-- How many steps can be taken at most. -/
def work (now : Exchange) : Nat :=
  2 * now.pending.length + now.queue.items.length +
    match now.answering with
    | .awaiting => 2
    | .streaming _ => 1
    | .done _ => 0

theorem work_lt (hstep : Step now next) : next.work < now.work := by
  cases hstep with
  | @push item pending queue answering hroom =>
      have hpush : (queue.push item).items.length ≤ queue.items.length + 1 := by
        rw [Queue.push]
        split
        · simp
        · exact Nat.le_succ _
      simp only [work, List.length_cons]
      omega
  | refuse hitem =>
      have hlength := Queue.length_of_receive? hitem
      simp only [work]
      omega
  | commit hitem =>
      have hlength := Queue.length_of_receive? hitem
      simp only [work]
      omega
  | commitEmpty => exact Nat.lt_succ_self _
  | pull hitem =>
      have hlength := Queue.length_of_receive? hitem
      simp only [work]
      omega
  | abort hitem =>
      have hlength := Queue.length_of_receive? hitem
      simp only [work]
      omega
  | close => exact Nat.lt_succ_self _

/-- No exchange goes on for ever. -/
theorem wellFounded_step : WellFounded fun next now : Exchange => Step now next :=
  Subrelation.wf work_lt (measure work).wf

/-- The exchange as a worker starts. -/
def start (items : List QueueItem) : Exchange := ⟨items, {}, .awaiting⟩

theorem sound_start (items : List QueueItem) : Sound items (start items) := ⟨rfl, rfl⟩

/-- Every exchange is sound. -/
theorem sound_of_reachable (h : Relation.ReflTransGen Step (start items) now) :
    Sound items now := by
  induction h with
  | refl => exact sound_start items
  | tail _ hstep ih => exact ih.step hstep

/-- A run that sent something, or did not fail, is answered by a stream. -/
theorem respond_itemsOf {sends : List Bytes} {outcome : Except CellFault Unit}
    (h : sends = [] → abortOf outcome = none) :
    Service.respond (itemsOf sends outcome) = streamed sends (abortOf outcome) := by
  have hstream : Service.streamOf ((abortOf outcome).toList.map .failure) =
      ([], abortOf outcome) := by
    cases abortOf outcome <;> rfl
  rw [itemsOf, respond_chunks, hstream, List.append_nil]
  intro hnil
  rw [h hnil]
  rfl

end Exchange

/-! ## The status of an answer -/

namespace Service

/-- A request to run a cell is answered by what the run pushes. -/
theorem runCell_eq [Represent ν] (service : Service ε ν σ τ) {body : Bytes}
    {request : RunCellRequest} {id : NotebookId}
    (hrequest : RunCellRequest.decode body = .ok request)
    (hid : NotebookId.ofName? request.name = some id) :
    let ran := (service.engine.run Recorder.channel id request.text (.empty none)).2
    (service.runCell body).2 = respond (itemsOf ran.1.sends ran.2) := by
  intro ran
  rw [runCell, hrequest]
  dsimp only
  rw [hid]
  exact congrArg respond (items_runIntoQueue service.engine id request.text)

/-- The answer to a cell that runs, however its worker and its response take turns.  There is one,
after finitely many steps, and it is that of the handler: an error just if the run failed without an
octet of output, and else a stream of the sends of the run, none of them empty, which breaks off
after the last of them just if the run failed. -/
theorem runCell_exchange [Represent ν] (service : Service ε ν σ τ) {body : Bytes}
    {request : RunCellRequest} {id : NotebookId}
    (hrequest : RunCellRequest.decode body = .ok request)
    (hid : NotebookId.ofName? request.name = some id) :
    let ran := (service.engine.run Recorder.channel id request.text (.empty none)).2
    let start := Exchange.start (runIntoQueue service.engine id request.text).2.items
    (∀ octets ∈ ran.1.sends, octets ≠ []) ∧
      (WellFounded fun next now : Exchange => Exchange.Step now next) ∧
      ∀ now, Relation.ReflTransGen Exchange.Step start now →
        ((∃ handled, now.answering = .done handled) ∨ ∃ next, Exchange.Step now next) ∧
        ∀ handled, now.answering = .done handled →
          handled = (service.runCell body).2 ∧
          (handled.response = .ofText 500 "Error" ↔
            (∃ fault, ran.2 = .error fault) ∧ ran.1.sends.flatten = []) ∧
          (handled.response ≠ .ofText 500 "Error" → ∃ failure,
            handled.response = ⟨200, [("content-type", jsonType)], .streamed ran.1.sends failure⟩ ∧
            (failure.isSome = true ↔ ∃ fault, ran.2 = .error fault)) := by
  intro ran start
  have hsends : ∀ octets ∈ ran.1.sends, octets ≠ [] := by
    intro octets hmem
    rw [show ran = _ from run_recorder service.engine id request.text] at hmem
    exact sends_ne_nil _ hmem
  refine ⟨hsends, Exchange.wellFounded_step, fun now hnow => ⟨now.exists_step, ?_⟩⟩
  intro handled hdone
  have hsound := (Exchange.sound_of_reachable hnow).fits
  rw [hdone, items_runIntoQueue] at hsound
  have hhandled : handled = respond (itemsOf ran.1.sends ran.2) := hsound
  have hfailed := isSome_abortOf ran.2
  have hempty : ran.1.sends.flatten = [] ↔ ran.1.sends = [] := by
    rw [List.flatten_eq_nil_iff]
    constructor
    · intro hnil
      exact List.eq_nil_iff_forall_not_mem.mpr fun octets hmem =>
        hsends octets hmem (hnil octets hmem)
    · intro hnil octets hmem
      rw [hnil] at hmem
      exact absurd hmem List.not_mem_nil
  rw [hempty]
  refine ⟨hhandled.trans (service.runCell_eq hrequest hid).symm, ?_⟩
  by_cases hrefused : (∃ fault, ran.2 = .error fault) ∧ ran.1.sends = []
  · obtain ⟨⟨fault, hfault⟩, hnil⟩ := hrefused
    have hresponse : handled.response = .ofText 500 "Error" := by
      rw [hhandled, hfault, hnil]
      rfl
    exact ⟨⟨fun _ => ⟨⟨fault, hfault⟩, hnil⟩, fun _ => hresponse⟩, fun h => absurd hresponse h⟩
  · have hresponse : handled.response =
        ⟨200, [("content-type", jsonType)], .streamed ran.1.sends (abortOf ran.2)⟩ := by
      rw [hhandled, Exchange.respond_itemsOf]
      · rfl
      · intro hnil
        rcases habort : abortOf ran.2 with _ | fault
        · rfl
        · exact absurd ⟨hfailed.mp (by rw [habort]; rfl), hnil⟩ hrefused
    refine ⟨⟨fun herror => ?_, fun h => absurd h hrefused⟩, fun _ => ⟨_, hresponse, hfailed⟩⟩
    have hstatus : 200 = 500 := congrArg Http.Response.status (hresponse.symm.trans herror)
    exact absurd hstatus (by decide)

/-- A request to run a cell of two lines. -/
def echoRequest : RunCellRequest := ⟨"a.unb", ["one", "two"]⟩

/-- The written form of the request. -/
def echoBody : Bytes := Text.encode "\x7b\"fn\":\"a.unb\",\"source\":[\"one\",\"two\"]\x7d"

/-- The two lines are answered as the handler answers them, in any order of steps. -/
theorem runCell_exchange_echo :
    let service : Service Nat String Unit Unit := ⟨.new .echo, (), ()⟩
    let start := Exchange.start
      (runIntoQueue service.engine ⟨"a.unb", by decide⟩ echoRequest.text).2.items
    ∀ now, Relation.ReflTransGen Exchange.Step start now → ∀ handled,
      now.answering = .done handled → handled = (service.runCell echoBody).2 := by
  intro service start now hnow handled hdone
  have hread : (RunCellRequest.decode echoBody).toOption = some echoRequest := by decide +kernel
  have hrequest : RunCellRequest.decode echoBody = .ok echoRequest := by
    rcases hdecoded : RunCellRequest.decode echoBody with fault | request
    · rw [hdecoded] at hread
      exact nomatch hread
    · rw [hdecoded] at hread
      exact congrArg Except.ok (Option.some.inj hread)
  have hid : NotebookId.ofName? echoRequest.name = some ⟨"a.unb", by decide⟩ := by decide
  obtain ⟨-, -, hanswers⟩ := service.runCell_exchange hrequest hid
  exact ((hanswers now hnow).2 handled hdone).1

end Service

end Cellbook.Server
