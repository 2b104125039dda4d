import Cellbook.Proofs.Engine.Framing
import Cellbook.Proofs.Engine.Parallel

/-!
# Runs keep their output apart

However the steps of threads fall, the channel of a run receives the texts that the run prints and
no others, and the sinks of the stream receive the texts that are written in no run
(`Parallel.apart_of_course`).  All threads write on one stream, and what keeps their texts apart is
the capture of each thread alone.

The invariant (`Parallel.Kept`) ties the capture of every thread to the run that is in progress on
it (`Parallel.Placed`): the capture takes texts to that run's channel just while the run may print,
and there is none otherwise.  A step touches the thread that takes it and that thread's run; for all
others it is enough that no two threads have a run in common (`Parallel.Kept.placed_others`).
-/

namespace Cellbook.Parallel

open Output (Routing Guard ThreadId Sink)

variable {ε ν σ κ : Type} [Represent ν]

/-! ## What a run has heard -/

namespace Running

/-- A run to whose channel some texts have come, and of anything else only what its cell shows. -/
structure Heard (evaluator : Evaluator ε ν) (texts : List String) (run : Running σ) : Prop where
  /-- Unless the run has ended, its channel is as the texts leave it. -/
  going : run.outcome = none → run.printing =
    (⟨run.request.start, false⟩ : Printing σ).printAll run.request.channel texts
  /-- A run that has ended has executed its cell, which prints the texts, in some environment. -/
  ended : ∀ outcome, run.outcome = some outcome → ∃ environment,
    (evaluator.callCell (CellParts.ofSource run.request.source) environment).printed = texts ∧
      let executed := evaluator.executeIn run.request.channel environment run.request.source
        run.request.start
      run.printing.state = executed.state ∧ outcome = executed.outcome

variable {evaluator : Evaluator ε ν}

theorem heard_new (request : Request σ) : (new request).Heard evaluator [] where
  going _ := rfl
  ended _ h := nomatch h

namespace Heard

variable {texts : List String} {run : Running σ}

/-- One more text comes to a run that goes on. -/
theorem hear (h : run.Heard evaluator texts) (hgoing : run.outcome = none) (text : String) :
    (run.hear text).Heard evaluator (texts ++ [text]) where
  going _ := by
    rw [Running.hear, h.going hgoing, Printing.printAll_append]
    rfl
  ended _ hended := nomatch hgoing.symm.trans hended

/-- A run ends that has printed all its texts. -/
theorem conclude (h : run.Heard evaluator texts) (hgoing : run.outcome = none) {environment : ε}
    (htexts : (evaluator.callCell (CellParts.ofSource run.request.source) environment).printed =
      texts) :
    (run.conclude (evaluator.callCell (CellParts.ofSource run.request.source)
      environment)).Heard evaluator texts where
  going hnone := nomatch hnone
  ended outcome hended := by
    refine ⟨environment, htexts, ?_⟩
    cases hended
    have hdelivered := (evaluator.callCell (CellParts.ofSource run.request.source)
      environment).deliver_eq_conclude run.request.channel ⟨run.request.start, false⟩
    rw [htexts, ← h.going hgoing] at hdelivered
    exact ⟨congrArg Executed.state hdelivered.symm, congrArg Executed.outcome hdelivered.symm⟩

/-- The run of a blank cell ends. -/
theorem concludeBlank (h : run.Heard evaluator []) (hgoing : run.outcome = none)
    (hblank : (CellParts.ofSource run.request.source).isEmpty = true) :
    run.concludeBlank.Heard evaluator [] where
  going hnone := nomatch hnone
  ended outcome hended := by
    refine ⟨evaluator.fresh, ?_, ?_⟩
    · change (evaluator.callCell (CellParts.ofSource run.request.source) _).printed = []
      rw [evaluator.callCell_of_isEmpty hblank]
      rfl
    · cases hended
      rw [Running.concludeBlank, h.going hgoing, evaluator.executeIn_of_isEmpty _ _ hblank]
      exact ⟨rfl, rfl⟩

/-- A faithful channel has received a frame for each text, in order, and then what is shown of the
result, which is nothing unless the run has ended. -/
theorem exists_delivered_eq (h : run.Heard evaluator texts) {good : σ → Prop}
    {delivered : σ → Bytes} (hchannel : run.request.channel.Faithful good delivered)
    (hstart : good run.request.start) :
    ∃ shown, delivered run.printing.state = delivered run.request.start ++
        (texts.map fun text => Text.encode (frame text)).flatten ++ shown ∧
      newline ∉ shown ∧ (run.outcome = none → shown = []) := by
  cases houtcome : run.outcome with
  | none =>
      refine ⟨[], ?_, List.not_mem_nil, fun _ => rfl⟩
      rw [h.going houtcome, hchannel.printAll_eq hstart, hchannel.delivered_sendAll hstart,
        List.append_nil]
  | some outcome =>
      obtain ⟨environment, htexts, hstate, -⟩ := h.ended outcome houtcome
      refine ⟨(evaluator.callCell (CellParts.ofSource run.request.source) environment).shown, ?_,
        Called.newline_notMem_shown _, nofun⟩
      rw [hstate, Evaluator.executeIn, hchannel.deliver_eq hstart,
        hchannel.delivered_sendAll hstart, Called.flatten_sends, htexts, List.append_assoc]

end Heard

end Running

/-! ## How threads stand -/

/-- How a thread stands to its capture, to the run in progress on it and to what that run printed,
by the place where the thread is. -/
inductive Placed (evaluator : Evaluator ε ν) (account : Account κ) (now : Parallel ε ν σ κ)
    (thread : ThreadId) : Place ε ν κ → Prop
  | outside (hcurrent : account.current thread = none)
      (hcapture : now.routing.capture thread = none) :
      Placed evaluator account now thread .outside
  | waiting {number : Nat} {handle : Handle} {source : String} {run : Running σ}
      (hcurrent : account.current thread = some number)
      (hcapture : now.routing.capture thread = none)
      (hrun : now.runs[number]? = some run) (hsource : run.request.source = source)
      (hgoing : run.outcome = none) (hprinted : account.printed number = []) :
      Placed evaluator account now thread (.waiting number handle source)
  | inside {number : Nat} {handle : Handle} {source : String} {environment : ε}
      {ahead : List String} {run : Running σ} (hcurrent : account.current thread = some number)
      (hcapture : now.routing.capture thread = some (.plain (.own number)))
      (hrun : now.runs[number]? = some run) (hsource : run.request.source = source)
      (hgoing : run.outcome = none)
      (hprinted : (evaluator.callCell (CellParts.ofSource source) environment).printed =
        account.printed number ++ ahead) :
      Placed evaluator account now thread (.inside number handle ⟨thread, none⟩
        (evaluator.callCell (CellParts.ofSource source) environment) ahead)
  | leaving {number : Nat} {handle : Handle} {run : Running σ}
      (hcurrent : account.current thread = some number)
      (hcapture : now.routing.capture thread = some (.plain (.own number)))
      (hrun : now.runs[number]? = some run) :
      Placed evaluator account now thread (.leaving number handle ⟨thread, none⟩)

omit [Represent ν] in
/-- A thread stands as it did if its capture, its run and what that run printed are what they
were. -/
theorem Placed.frame {evaluator : Evaluator ε ν} {account added : Account κ}
    {now next : Parallel ε ν σ κ} {thread : ThreadId} {place : Place ε ν κ}
    (h : Placed evaluator account now thread place)
    (hcurrent : added.current thread = account.current thread)
    (hcapture : next.routing.capture thread = now.routing.capture thread)
    (hrun : ∀ number run, account.current thread = some number → now.runs[number]? = some run →
      next.runs[number]? = some run)
    (hprinted : ∀ number, account.current thread = some number →
      added.printed number = account.printed number) :
    Placed evaluator added next thread place := by
  cases h with
  | outside hnone hfree => exact .outside (hcurrent.trans hnone) (hcapture.trans hfree)
  | waiting hsome hfree hheld hsource hgoing hquiet =>
      exact .waiting (hcurrent.trans hsome) (hcapture.trans hfree) (hrun _ _ hsome hheld) hsource
        hgoing ((hprinted _ hsome).trans hquiet)
  | inside hsome hown hheld hsource hgoing htexts =>
      refine .inside (hcurrent.trans hsome) (hcapture.trans hown) (hrun _ _ hsome hheld) hsource
        hgoing ?_
      rw [hprinted _ hsome]
      exact htexts
  | leaving hsome hown hheld =>
      exact .leaving (hcurrent.trans hsome) (hcapture.trans hown) (hrun _ _ hsome hheld)

/-- What every step keeps. -/
structure Kept (evaluator : Evaluator ε ν) (account : Account κ) (now : Parallel ε ν σ κ) :
    Prop where
  evaluator_eq : now.engine.evaluator = evaluator
  destination_eq : now.routing.destination stream = .shared account.sink
  length_eq : now.runs.length = account.called
  received_eq : now.received = account.written
  placed : ∀ thread, Placed evaluator account now thread (now.place thread)
  /-- No two threads have a run in common. -/
  apart : ∀ {thread other number}, account.current thread = some number →
    account.current other = some number → thread = other
  /-- No text belongs to a run that was not called for. -/
  uncalled : ∀ {number}, now.runs.length ≤ number → account.printed number = []
  heard : ∀ {number : Nat} {run : Running σ}, now.runs[number]? = some run →
    run.Heard evaluator (account.printed number)

theorem Kept.start (engine : Engine ε ν) (sink : κ) :
    Kept engine.evaluator (.start sink) (new engine sink : Parallel ε ν σ κ) where
  evaluator_eq := rfl
  destination_eq := rfl
  length_eq := rfl
  received_eq := rfl
  placed _ := .outside rfl rfl
  apart h := nomatch h
  uncalled _ := rfl
  heard h := nomatch h

namespace Kept

variable {evaluator : Evaluator ε ν} {account : Account κ} {now : Parallel ε ν σ κ}
  {thread : ThreadId}

/-- The run in progress on a thread was called for. -/
theorem current_lt (h : Kept evaluator account now) {number : Nat}
    (hcurrent : account.current thread = some number) : number < now.runs.length := by
  have hplaced := h.placed thread
  generalize now.place thread = place at hplaced
  cases hplaced with
  | outside hnone => exact nomatch hnone.symm.trans hcurrent
  | waiting hsome _ hrun | inside hsome _ hrun | leaving hsome _ hrun =>
      cases hsome.symm.trans hcurrent
      exact (List.getElem?_eq_some_iff.mp hrun).1

theorem placed_at (h : Kept evaluator account now) {place : Place ε ν κ}
    (hplace : now.place thread = place) : Placed evaluator account now thread place :=
  hplace ▸ h.placed thread

/-- Others stand as they did after a step that leaves their captures and runs as they are, so that
all threads stand as they should if the one that took it does. -/
theorem placed_others (h : Kept evaluator account now) {added : Account κ}
    {next : Parallel ε ν σ κ} {place : Place ε ν κ}
    (hplace : next.place = Function.update now.place thread place)
    (hself : Placed evaluator added next thread place)
    (hcurrent : ∀ other, other ≠ thread → added.current other = account.current other)
    (hcapture : ∀ other, other ≠ thread →
      next.routing.capture other = now.routing.capture other)
    (hrun : ∀ number run, account.current thread ≠ some number → now.runs[number]? = some run →
      next.runs[number]? = some run)
    (hprinted : ∀ number, account.current thread ≠ some number →
      added.printed number = account.printed number) (other : ThreadId) :
    Placed evaluator added next other (next.place other) := by
  rw [hplace]
  by_cases hother : other = thread
  · rw [hother, Function.update_self]
    exact hself
  · have hforeign : ∀ number, account.current other = some number →
        account.current thread ≠ some number :=
      fun number hsome hmine => hother (h.apart hsome hmine)
    rw [Function.update_of_ne hother]
    exact (h.placed other).frame (hcurrent other hother) (hcapture other hother)
      (fun number run hsome => hrun number run (hforeign number hsome))
      fun number hsome => hprinted number (hforeign number hsome)

/-- All threads stand as they should after a step that changes its thread's run and no capture, if
the thread that took it does. -/
theorem placed_modify (h : Kept evaluator account now) {added : Account κ}
    {next : Parallel ε ν σ κ} {place : Place ε ν κ} {own : Nat} {change : Running σ → Running σ}
    (hown : account.current thread = some own)
    (hplace : next.place = Function.update now.place thread place)
    (hself : Placed evaluator added next thread place)
    (hcurrent : ∀ other, other ≠ thread → added.current other = account.current other)
    (hrouting : next.routing = now.routing) (hruns : next.runs = now.runs.modify own change)
    (hprinted : ∀ number, own ≠ number → added.printed number = account.printed number)
    (other : ThreadId) : Placed evaluator added next other (next.place other) := by
  have hne : ∀ {number}, account.current thread ≠ some number → own ≠ number :=
    fun hforeign heq => hforeign (hown.trans (congrArg some heq))
  refine h.placed_others hplace hself hcurrent (fun _ _ => hrouting ▸ rfl) ?_ ?_ other
  · intro number run hforeign hrun
    rw [hruns, List.getElem?_modify_ne _ _ (hne hforeign)]
    exact hrun
  · intro number hforeign
    exact hprinted number (hne hforeign)

omit [Represent ν] in
theorem length_le_of_modify {runs : List (Running σ)} {own number : Nat}
    {change : Running σ → Running σ} (h : (runs.modify own change).length ≤ number) :
    runs.length ≤ number := by
  rwa [List.length_modify] at h

/-- A step that changes one run leaves others what they have heard. -/
theorem heard_modify (h : Kept evaluator account now) {added : Account κ} {own : Nat}
    {change : Running σ → Running σ} {mine : Running σ} (hmine : now.runs[own]? = some mine)
    (hheard : (change mine).Heard evaluator (added.printed own))
    (hprinted : ∀ number, own ≠ number → added.printed number = account.printed number)
    {number : Nat} {run : Running σ} (hrun : (now.runs.modify own change)[number]? = some run) :
    run.Heard evaluator (added.printed number) := by
  by_cases hown : own = number
  · subst hown
    rw [List.getElem?_modify_eq, hmine] at hrun
    cases hrun
    exact hheard
  · rw [List.getElem?_modify_ne _ _ hown] at hrun
    rw [hprinted number hown]
    exact h.heard hrun

/-- Where a thread is in no run any more, no two threads have a run in common. -/
theorem apart_leave (h : Kept evaluator account now) {first other : ThreadId} {number : Nat}
    (hfirst : (account.add (.leave thread : Event σ κ)).current first = some number)
    (hother : (account.add (.leave thread : Event σ κ)).current other = some number) :
    first = other := by
  have hstays : ∀ {held}, (account.add (.leave thread : Event σ κ)).current held = some number →
      account.current held = some number := by
    intro held hheld
    by_cases heq : held = thread
    · subst heq
      exact nomatch (Function.update_self ..).symm.trans hheld
    · exact (Function.update_of_ne heq ..).symm.trans hheld
  exact h.apart (hstays hfirst) (hstays hother)

/-! ## Steps -/

theorem call (h : Kept evaluator account now) (hplace : now.place thread = .outside)
    (request : Request σ) :
    Kept evaluator (account.add (.call thread request)) (now.call thread request) := by
  obtain ⟨-, hcapture⟩ := h.placed_at hplace
  have hfree : (now.call thread request).routing.capture thread = none := hcapture
  have hnew : (now.call thread request).runs[now.runs.length]? = some (.new request) :=
    List.getElem?_concat_length
  have hlength : (now.call thread request).runs.length = now.runs.length + 1 :=
    List.length_append
  have hself : (account.add (.call thread request)).current thread = some now.runs.length :=
    (Function.update_self ..).trans (congrArg some h.length_eq.symm)
  have hothers : ∀ {other : ThreadId}, other ≠ thread →
      (account.add (.call thread request)).current other = account.current other :=
    fun hother => Function.update_of_ne hother ..
  refine ⟨h.evaluator_eq, h.destination_eq, ?_, h.received_eq, ?_, ?_, ?_, ?_⟩
  · rw [hlength, h.length_eq]
    rfl
  · refine h.placed_others rfl (.waiting hself hfree hnew rfl rfl (h.uncalled (Nat.le_refl _)))
      (fun other hother => hothers hother) (fun _ _ => rfl) ?_ fun _ _ => rfl
    intro number run _ hrun
    exact (List.getElem?_append_left (List.getElem?_eq_some_iff.mp hrun).1).trans hrun
  · -- The number of the new run is out of the bounds that all others keep.
    intro first other number hfirst hother
    by_cases hf : first = thread <;> by_cases ho : other = thread
    · rw [hf, ho]
    · rw [hf, hself] at hfirst
      rw [hothers ho] at hother
      cases hfirst
      exact absurd (h.current_lt hother) (Nat.lt_irrefl _)
    · rw [ho, hself] at hother
      rw [hothers hf] at hfirst
      cases hother
      exact absurd (h.current_lt hfirst) (Nat.lt_irrefl _)
    · rw [hothers hf] at hfirst
      rw [hothers ho] at hother
      exact h.apart hfirst hother
  · intro number hnumber
    rw [hlength] at hnumber
    exact h.uncalled (Nat.le_of_succ_le hnumber)
  · intro number run hrun
    rcases Nat.lt_trichotomy number now.runs.length with hlt | rfl | hgt
    · exact h.heard ((List.getElem?_append_left hlt).symm.trans hrun)
    · cases hnew.symm.trans hrun
      have hquiet : account.printed now.runs.length = [] := h.uncalled (Nat.le_refl _)
      exact hquiet.symm ▸ Running.heard_new request
    · rw [List.getElem?_eq_none (hlength ▸ hgt)] at hrun
      exact nomatch hrun

theorem enter (h : Kept evaluator account now) {number : Nat} {handle : Handle} {source : String}
    (hplace : now.place thread = .waiting number handle source) :
    Kept evaluator (account.add (.enter thread : Event σ κ))
      (now.enter thread number handle source) := by
  obtain - | ⟨hcurrent, hcapture, hrun, hsource, hgoing, hprinted⟩ := h.placed_at hplace
  have hentered : (now.enter thread number handle source).place =
      let cell := evaluator.callCell (CellParts.ofSource source) (now.engine.environment handle)
      Function.update now.place thread
        (.inside number handle ⟨thread, none⟩ cell cell.printed) := by
    rw [← hcapture, ← h.evaluator_eq]
    rfl
  refine ⟨h.evaluator_eq, h.destination_eq, h.length_eq, h.received_eq, ?_, h.apart, h.uncalled,
    h.heard⟩
  refine h.placed_others hentered ?_ (fun _ _ => rfl)
    (fun other hother => Routing.capture_setCapture_of_ne _ hother _) (fun _ _ _ hheld => hheld)
    fun _ _ => rfl
  refine .inside hcurrent (Routing.capture_setCapture_self ..) hrun hsource hgoing ?_
  rw [Account.add, hprinted]
  rfl

theorem print (h : Kept evaluator account now) {number : Nat} {handle : Handle}
    {guard : Guard (Sink κ)} {cell : Called ε (Option ν)} {text : String} {ahead : List String}
    (hplace : now.place thread = .inside number handle guard cell (text :: ahead)) :
    Kept evaluator (account.add (.write thread text : Event σ κ))
      ((now.write thread text).put thread (.inside number handle guard cell ahead)) := by
  obtain - | - | @⟨_, _, _, _, _, run, hcurrent, hcapture, hrun, hsource, hgoing, hprinted⟩ :=
    h.placed_at hplace
  have hown : (account.add (.write thread text : Event σ κ)).printed number =
      account.printed number ++ [text] := by
    rw [Account.printed_write_of_some hcurrent, if_pos rfl]
  have hothers : ∀ other, number ≠ other →
      (account.add (.write thread text : Event σ κ)).printed other = account.printed other := by
    intro other hother
    rw [Account.printed_write_of_some hcurrent, if_neg hother]
  have hhears : (now.runs.modify number fun run => run.hear text)[number]? =
      some (run.hear text) := by
    rw [List.getElem?_modify_eq, hrun]
    rfl
  rw [write_of_plain hcapture]
  refine ⟨h.evaluator_eq, h.destination_eq, ?_, ?_, ?_, h.apart, ?_, ?_⟩
  · exact (List.length_modify ..).trans h.length_eq
  · rw [Account.written_write_of_some hcurrent]
    exact h.received_eq
  · refine h.placed_modify hcurrent rfl (.inside hcurrent hcapture hhears hsource hgoing ?_)
      (fun _ _ => rfl) rfl rfl hothers
    rw [hown, List.append_assoc]
    exact hprinted
  · intro other hother
    have hlength : now.runs.length ≤ other := length_le_of_modify hother
    rw [hothers other (Nat.ne_of_lt (Nat.lt_of_lt_of_le (h.current_lt hcurrent) hlength))]
    exact h.uncalled hlength
  · intro other run hheld
    refine h.heard_modify hrun ?_ hothers hheld
    rw [hown]
    exact (h.heard hrun).hear hgoing text

theorem write (h : Kept evaluator account now) (hplace : now.place thread = .outside)
    (text : String) :
    Kept evaluator (account.add (.write thread text : Event σ κ)) (now.write thread text) := by
  obtain ⟨hcurrent, hcapture⟩ := h.placed_at hplace
  have hprinted : ∀ number, (account.add (.write thread text : Event σ κ)).printed number =
      account.printed number := Account.printed_write_of_none hcurrent text
  rw [write_of_none hcapture h.destination_eq]
  refine ⟨h.evaluator_eq, h.destination_eq, h.length_eq, ?_, ?_, h.apart, ?_, ?_⟩
  · rw [Account.written_write_of_none hcurrent, h.received_eq]
  · intro other
    exact (h.placed other).frame rfl rfl (fun _ _ _ hheld => hheld) fun number _ => hprinted number
  · intro number hnumber
    exact (hprinted number).trans (h.uncalled hnumber)
  · intro number run hrun
    rw [hprinted number]
    exact h.heard hrun

theorem finish (h : Kept evaluator account now) {number : Nat} {handle : Handle}
    {guard : Guard (Sink κ)} {cell : Called ε (Option ν)}
    (hplace : now.place thread = .inside number handle guard cell []) :
    Kept evaluator (account.add (.finish thread : Event σ κ))
      (now.finish thread number handle guard cell) := by
  obtain - | - | @⟨_, _, _, environment, _, run, hcurrent, hcapture, hrun, rfl, hgoing, hprinted⟩ :=
    h.placed_at hplace
  rw [List.append_nil] at hprinted
  have hends : (now.runs.modify number fun mine => mine.conclude (evaluator.callCell
      (CellParts.ofSource run.request.source) environment))[number]? =
      some (run.conclude (evaluator.callCell
        (CellParts.ofSource run.request.source) environment)) := by
    rw [List.getElem?_modify_eq, hrun]
    rfl
  refine ⟨h.evaluator_eq, h.destination_eq, ?_, h.received_eq, ?_, h.apart, ?_, ?_⟩
  · exact (List.length_modify ..).trans h.length_eq
  · exact h.placed_modify hcurrent rfl (.leaving hcurrent hcapture hends) (fun _ _ => rfl) rfl rfl
      fun _ _ => rfl
  · intro other hother
    exact h.uncalled (length_le_of_modify hother)
  · intro other run hheld
    exact h.heard_modify hrun ((h.heard hrun).conclude hgoing hprinted) (fun _ _ => rfl) hheld

/-- A run is over once its capture is taken away. -/
theorem leave (h : Kept evaluator account now) :
    Kept evaluator (account.add (.leave thread : Event σ κ)) (now.leave thread ⟨thread, none⟩) := by
  refine ⟨h.evaluator_eq, h.destination_eq, h.length_eq, h.received_eq, ?_, h.apart_leave,
    h.uncalled, h.heard⟩
  exact h.placed_others rfl
    (.outside (Function.update_self ..) (Routing.capture_setCapture_self ..))
    (fun other hother => Function.update_of_ne hother ..)
    (fun other hother => Routing.capture_setCapture_of_ne _ hother _) (fun _ _ _ hheld => hheld)
    fun _ _ => rfl

theorem leaveBlank (h : Kept evaluator account now) {number : Nat} {handle : Handle}
    {source : String} (hplace : now.place thread = .waiting number handle source)
    (hblank : (CellParts.ofSource source).isEmpty = true) :
    Kept evaluator (account.add (.leave thread : Event σ κ)) (now.leaveBlank thread number) := by
  obtain - | ⟨hcurrent, hcapture, hrun, rfl, hgoing, hprinted⟩ := h.placed_at hplace
  refine ⟨h.evaluator_eq, h.destination_eq, ?_, h.received_eq, ?_, h.apart_leave, ?_, ?_⟩
  · exact (List.length_modify ..).trans h.length_eq
  · exact h.placed_modify hcurrent rfl (.outside (Function.update_self ..) hcapture)
      (fun other hother => Function.update_of_ne hother ..) rfl rfl fun _ _ => rfl
  · intro other hother
    exact h.uncalled (length_le_of_modify hother)
  · intro other run hheld
    have hmine := h.heard hrun
    rw [hprinted] at hmine
    refine h.heard_modify hrun ?_ (fun _ _ => rfl) hheld
    exact hprinted.symm ▸ hmine.concludeBlank hgoing hblank

/-- Environments play no part in what is kept. -/
theorem setEnvironment (h : Kept evaluator account now) (handle : Handle) (environment : ε) :
    Kept evaluator account { now with engine := now.engine.setEnvironment handle environment } where
  evaluator_eq := h.evaluator_eq
  destination_eq := h.destination_eq
  length_eq := h.length_eq
  received_eq := h.received_eq
  placed thread := (h.placed thread).frame rfl rfl (fun _ _ _ hrun => hrun) fun _ _ => rfl
  apart := h.apart
  uncalled := h.uncalled
  heard := h.heard

theorem replace (h : Kept evaluator account now) (sink : κ) :
    Kept evaluator (account.add (.replace sink : Event σ κ)) (now.replace sink) where
  evaluator_eq := h.evaluator_eq
  destination_eq := Routing.destination_replace_self ..
  length_eq := h.length_eq
  received_eq := h.received_eq
  placed thread := (h.placed thread).frame rfl rfl (fun _ _ _ hrun => hrun) fun _ _ => rfl
  apart := h.apart
  uncalled := h.uncalled
  heard := h.heard

/-- Every step keeps what threads stand to. -/
theorem step (h : Kept evaluator account now) {event : Event σ κ} {next : Parallel ε ν σ κ}
    (hstep : now.Step event next) : Kept evaluator (account.add event) next := by
  cases hstep with
  | call hplace request => exact h.call hplace request
  | enter hplace => exact h.enter hplace
  | print hplace => exact h.print hplace
  | write hplace text => exact h.write hplace text
  | finish hplace => exact h.finish hplace
  | @leave thread _ _ _ hplace =>
      cases h.placed_at hplace
      exact h.leave
  | leaveBlank hplace hblank => exact h.leaveBlank hplace hblank
  | @unwind thread _ handle _ _ _ hplace environment =>
      cases h.placed_at hplace
      exact (h.setEnvironment handle environment).leave
  | replace sink => exact h.replace sink

/-- A text that a thread may write next goes to the one sink it belongs to. -/
theorem routing_write_eq (h : Kept evaluator account now) {text : String}
    {next : Parallel ε ν σ κ} (hstep : now.Step (.write thread text) next) :
    now.routing.write thread stream text = [(account.owner thread, text)] := by
  cases hstep with
  | print hplace =>
      obtain - | - | ⟨hcurrent, hcapture⟩ := h.placed_at hplace
      rw [routing_write_of_plain hcapture, Account.owner_of_some hcurrent]
  | write hplace =>
      obtain ⟨hcurrent, hcapture⟩ := h.placed_at hplace
      rw [routing_write_of_none hcapture h.destination_eq, Account.owner_of_none hcurrent]

end Kept

theorem Course.kept {engine : Engine ε ν} {sink : κ} {events : List (Event σ κ)}
    {now : Parallel ε ν σ κ} (h : Course (new engine sink) events now) :
    Kept engine.evaluator (.ofEvents sink events) now := by
  induction h with
  | nil => exact .start engine sink
  | concat _ hstep ih =>
      rw [Account.ofEvents_concat]
      exact ih.step hstep

/-! ## Courses -/

section Requests

/-- The runs that were called for. -/
def requests (now : Parallel ε ν σ κ) : List (Request σ) := now.runs.map Running.request

omit [Represent ν]

theorem map_request_modify (runs : List (Running σ)) (number : Nat)
    {change : Running σ → Running σ} (h : ∀ run, (change run).request = run.request) :
    (runs.modify number change).map Running.request = runs.map Running.request := by
  refine List.ext_getElem? fun other => ?_
  rw [List.getElem?_map, List.getElem?_map, List.getElem?_modify]
  cases runs[other]? with
  | none => rfl
  | some run =>
      rw [Option.map_eq_map, Option.map_some, Option.map_some, Option.map_some]
      split
      · rw [h]
      · rfl

/-- What comes to a run does not change what it was called for. -/
theorem requests_write (now : Parallel ε ν σ κ) (thread : ThreadId) (text : String) :
    (now.write thread text).requests = now.requests := by
  rw [write]
  generalize now.routing.write thread stream text = deliveries
  induction deliveries generalizing now with
  | nil => rfl
  | cons delivery deliveries ih =>
      rw [List.foldl_cons, ih]
      rcases delivery with ⟨number | sink, text⟩
      · exact map_request_modify _ _ fun _ => rfl
      · rfl

end Requests

/-- No step changes what a run was called for, and only a call adds one. -/
theorem Step.requests_eq {now next : Parallel ε ν σ κ} {event : Event σ κ}
    (h : now.Step event next) : next.requests = now.requests ++ event.request?.toList := by
  cases h with
  | call => exact List.map_append
  | print | write =>
      refine Eq.trans ?_ (List.append_nil _).symm
      exact now.requests_write _ _
  | finish | leaveBlank =>
      refine Eq.trans ?_ (List.append_nil _).symm
      exact map_request_modify _ _ fun _ => rfl
  | enter | leave | unwind | replace => exact (List.append_nil _).symm

/-- Every text is where it belongs, by the events alone. -/
structure Apart (evaluator : Evaluator ε ν) (sink : κ) (events : List (Event σ κ))
    (now : Parallel ε ν σ κ) : Prop where
  /-- The runs are those that were called for, in order. -/
  requests_eq : now.requests = events.filterMap Event.request?
  /-- Every text written belongs to one sink. -/
  texts_eq : (Account.ofEvents sink events).texts.map Prod.snd = events.filterMap Event.text?
  /-- A text that is written next goes to the sink it belongs to, and to no other. -/
  routing_write_eq : ∀ {thread : ThreadId} {text : String} {next : Parallel ε ν σ κ},
    now.Step (.write thread text) next →
      now.routing.write thread stream text = [((Account.ofEvents sink events).owner thread, text)]
  /-- The sinks of the stream have received the texts that were written in no run. -/
  received_eq : now.received = (Account.ofEvents sink events).written
  /-- To the channel of a run have come the texts that the run printed. -/
  heard : ∀ {number : Nat} {run : Running σ}, now.runs[number]? = some run →
    run.Heard evaluator ((Account.ofEvents sink events).printed number)
  /-- On a channel that never fails, these are a frame for each text, in order, and what is shown of
  the result after the last text. -/
  exists_delivered_eq : ∀ {number : Nat} {run : Running σ}, now.runs[number]? = some run →
    ∀ {good : σ → Prop} {delivered : σ → Bytes}, run.request.channel.Faithful good delivered →
      good run.request.start →
        ∃ shown, delivered run.printing.state = delivered run.request.start ++
            (((Account.ofEvents sink events).printed number).map fun text =>
              Text.encode (frame text)).flatten ++ shown ∧
          newline ∉ shown ∧ (run.outcome = none → shown = [])

/-- In whatever order threads take their steps, the output of a run stays apart from all other. -/
theorem apart_of_course {engine : Engine ε ν} {sink : κ} {events : List (Event σ κ)}
    {now : Parallel ε ν σ κ} (h : Course (new engine sink) events now) :
    Apart engine.evaluator sink events now where
  requests_eq := by
    induction h with
    | nil => rfl
    | @concat events now next event _ hstep ih =>
        rw [hstep.requests_eq, ih, List.filterMap_append]
        cases event <;> rfl
  texts_eq := Account.texts_ofEvents sink events
  routing_write_eq hstep := h.kept.routing_write_eq hstep
  received_eq := h.kept.received_eq
  heard hrun := h.kept.heard hrun
  exists_delivered_eq hrun _ _ hchannel hstart :=
    (h.kept.heard hrun).exists_delivered_eq hchannel hstart

/-- Two runs whose prints fall between each other, as the sink of the stream is replaced and a third
thread writes. -/
theorem apart_of_course_interleaved :
    let first : Request Bytes := ⟨⟨"a.unb", by decide⟩, "one\ntwo", bufferChannel, []⟩
    let second : Request Bytes := ⟨⟨"b.unb", by decide⟩, "three\nfour", bufferChannel, []⟩
    let events : List (Event Bytes String) := [.call 0 first, .call 1 second, .enter 0, .enter 1,
      .write 1 "three", .replace "file", .write 0 "one", .write 2 "aside", .finish 0, .leave 0,
      .write 0 "after"]
    ∃ now : Parallel Nat String Bytes String,
      Course (new (.new Evaluator.echo) "default") events now ∧
        Apart Evaluator.echo "default" events now ∧
        now.received = [("file", "aside"), ("file", "after")] ∧
        now.runs.map (fun run => run.outcome.isSome) = [true, false] ∧
        (Account.ofEvents "default" events).printed 0 = ["one"] ∧
        (Account.ofEvents "default" events).printed 1 = ["three"] := by
  intro first second events
  have hfirst : CellParts.ofSource "one\ntwo" = ⟨some "one", some "two"⟩ := by decide
  have hsecond : CellParts.ofSource "three\nfour" = ⟨some "three", some "four"⟩ := by decide
  let cell (one two : String) := Evaluator.echo.callCell ⟨some one, some two⟩ 0
  let called := ((new (.new Evaluator.echo) "default").call 0 first).call 1 second
  have hcalled : Course (new (.new Evaluator.echo) "default") _ called :=
    (Course.nil.concat (Step.call rfl first)).concat (Step.call rfl second)
  let entered := called.enter 0 0 ⟨0⟩ "one\ntwo"
  have hentered : called.Step (.enter 0) entered := by
    refine Step.enter rfl (by decide) fun other => ?_
    simp only [called, call, put, new, Function.update_apply]
    split_ifs <;> simp [Place.handle?]
  let both := entered.enter 1 1 ⟨1⟩ "three\nfour"
  have hboth : entered.Step (.enter 1) both := by
    refine Step.enter rfl (by decide) fun other => ?_
    simp only [entered, enter, called, call, put, new, Function.update_apply]
    split_ifs
    · decide
    · simp [Place.handle?]
    · simp [Place.handle?]
  have hthree : both.place 1 = .inside 1 ⟨1⟩ ⟨1, none⟩ (cell "three" "four") ["three"] :=
    congrArg (fun parts => Place.inside 1 ⟨1⟩ ⟨1, none⟩ (Evaluator.echo.callCell parts 0)
      (Evaluator.echo.callCell parts 0).printed) hsecond
  let replaced := ((both.write 1 "three").put 1
    (.inside 1 ⟨1⟩ ⟨1, none⟩ (cell "three" "four") [])).replace "file"
  have hreplaced : Course both _ replaced :=
    (Step.print hthree).course.concat (Step.replace "file")
  have hone : replaced.place 0 = .inside 0 ⟨0⟩ ⟨0, none⟩ (cell "one" "two") ["one"] :=
    congrArg (fun parts => Place.inside 0 ⟨0⟩ ⟨0, none⟩ (Evaluator.echo.callCell parts 0)
      (Evaluator.echo.callCell parts 0).printed) hfirst
  let printed := (replaced.write 0 "one").put 0 (.inside 0 ⟨0⟩ ⟨0, none⟩ (cell "one" "two") [])
  have hprinted : replaced.Step (.write 0 "one") printed := Step.print hone
  let aside := printed.write 2 "aside"
  have haside : printed.Step (.write 2 "aside") aside := Step.write rfl "aside"
  let finished := aside.finish 0 0 ⟨0⟩ ⟨0, none⟩ (cell "one" "two")
  have hfinished : aside.Step (.finish 0) finished := Step.finish rfl
  let left := finished.leave 0 ⟨0, none⟩
  have hleft : finished.Step (.leave 0) left := Step.leave rfl
  have hafter : left.Step (.write 0 "after") (left.write 0 "after") := Step.write rfl "after"
  have hcourse : Course (new (.new Evaluator.echo) "default") events (left.write 0 "after") :=
    ((((((((hcalled.concat hentered).concat hboth).trans hreplaced).concat hprinted).concat
      haside).concat hfinished).concat hleft).concat hafter)
  exact ⟨left.write 0 "after", hcourse, apart_of_course hcourse, rfl, rfl, rfl, rfl⟩

end Cellbook.Parallel
