import Cellbook.Proofs.Rendering.Insertion
import Cellbook.Proofs.Rendering.Nested
import Cellbook.Proofs.Script.Libraries
import Cellbook.Script.Evaluator

/-!
# Rich values built by chains

A chain of constructors of rich values, each with one argument, evaluates to a rich value, and what
is shown of that is the representation of the preferred kind that the chain names, with the argument
of the last call of that kind; a text, where it names nothing but texts (`chain_shown`).

A call sets one slot of the value (`Rich.set`) and leaves the others, so the argument of the last
call of each kind is all that is left of a chain (`render?_built`).  The evaluator gets to the same:
it evaluates the arguments, then makes the calls one after another, each of which answers a new
value and tells that the one it was made on has not changed (`walk_calls`).
-/

namespace Cellbook.Script

open Run

/-! ## Constructors -/

/-- What a constructor sets: the text, or a rich representation. -/
inductive Kind where
  | text
  | offered (capability : Capability)
  deriving DecidableEq

namespace Kind

/-- The name of a constructor. -/
def name : Kind → String
  | text => "text"
  | offered .mimeBundle => "mimebundle"
  | offered .html => "html"
  | offered .markdown => "markdown"
  | offered .svg => "svg"
  | offered .png => "png"
  | offered .jpeg => "jpeg"
  | offered .latex => "latex"
  | offered .javascript => "javascript"

/-- The arguments of a constructor: octets for an image, a map for a bundle, a text for all else. -/
def Takes : Kind → Value → Prop
  | offered .png, argument | offered .jpeg, argument => ∃ octets, argument = .blob octets
  | offered .mimeBundle, argument => ∃ entries, argument = .map entries
  | _, argument => ∃ content, argument = .text content

theorem name_notMem (kind : Kind) : kind.name ∉ callableKeywords := by
  rcases kind with _ | capability
  · decide
  · cases capability <;> decide

end Kind

/-- A call of a constructor with an argument that it takes. -/
structure Setting where
  kind : Kind
  argument : Value
  takes : kind.Takes argument

/-- What a rich representation shows of its argument: a bundle of the entries of a map, and of
anything else the payload by itself. -/
def bundleShown (capability : Capability) (argument : Value) : Bundle :=
  match capability.mime?, argument with
  | some mime, argument => .single mime (Library.payload argument)
  | none, .map entries => Library.bundleOf entries
  | none, _ => .empty

namespace Rich

/-- The value with the slot of a constructor set. -/
def set (rich : Rich) (setting : Setting) : Rich :=
  (Library.represent? setting.kind.name setting.argument rich).getD rich

variable (rich : Rich) (setting : Setting)

/-- The value is set by the call: a constructor represents whatever argument it takes. -/
theorem represent?_eq :
    Library.represent? setting.kind.name setting.argument rich = some (rich.set setting) := by
  rcases setting with ⟨_ | capability, argument, takes⟩
  · obtain ⟨content, rfl⟩ := takes
    rfl
  · cases capability <;> obtain ⟨content, rfl⟩ := takes <;> rfl

/-- A call offers its argument under its kind, and leaves what is offered under another. -/
theorem render?_set (capability : Capability) : (rich.set setting).offers.render? capability =
    if setting.kind = .offered capability then some (bundleShown capability setting.argument)
    else rich.offers.render? capability := by
  rcases setting with ⟨_ | other, argument, takes⟩
  · obtain ⟨content, rfl⟩ := takes
    rfl
  · cases other <;> obtain ⟨content, rfl⟩ := takes <;> cases capability <;> rfl

/-- A call sets the text if that is its kind, and leaves it otherwise. -/
theorem text_set : (rich.set setting).text =
    if setting.kind = .text then some setting.argument.bare else rich.text := by
  rcases setting with ⟨_ | other, argument, takes⟩
  · obtain ⟨content, rfl⟩ := takes
    rfl
  · cases other <;> obtain ⟨content, rfl⟩ := takes <;> rfl

end Rich

/-- The value that calls build, one after another. -/
def built (settings : List Setting) : Rich := settings.foldl Rich.set {}

theorem built_concat (settings : List Setting) (setting : Setting) :
    built (settings ++ [setting]) = (built settings).set setting := by
  rw [built, List.foldl_concat, built]

/-- The argument of the last call of a kind. -/
def lastOf (kind : Kind) (settings : List Setting) : Option Value :=
  (settings.reverse.find? fun setting => decide (setting.kind = kind)).map Setting.argument

theorem lastOf_concat (kind : Kind) (settings : List Setting) (setting : Setting) :
    lastOf kind (settings ++ [setting]) =
      if setting.kind = kind then some setting.argument else lastOf kind settings := by
  rw [lastOf, List.reverse_concat, List.find?_cons]
  by_cases h : setting.kind = kind
  · rw [if_pos h, decide_eq_true h]
    rfl
  · rw [if_neg h, decide_eq_false h]
    rfl

/-- Under each kind the argument of its last call is offered. -/
theorem render?_built (settings : List Setting) (capability : Capability) :
    (built settings).offers.render? capability =
      (lastOf (.offered capability) settings).map (bundleShown capability) := by
  induction settings using List.reverseRecOn with
  | nil => cases capability <;> rfl
  | append_singleton settings setting ih =>
      rw [built_concat, Rich.render?_set, lastOf_concat, ih]
      split <;> rfl

theorem text_built (settings : List Setting) :
    (built settings).text = (lastOf .text settings).map Value.bare := by
  induction settings using List.reverseRecOn with
  | nil => rfl
  | append_singleton settings setting ih =>
      rw [built_concat, Rich.text_set, lastOf_concat, ih]
      split <;> rfl

/-! ## What is shown -/

/-- What is shown of a rich value: the preferred representation or the text, and never an image for
its octets. -/
theorem encode_rich (rich : Rich) : encode (Value.rich rich) =
    match rich.offers.preferred? with
    | some bundle => .bundle bundle
    | none => .textual rich.shownText := rfl

/-- Calls that agree on the last argument of each kind build values that are shown alike. -/
theorem encode_built_congr {settings others : List Setting}
    (h : ∀ kind, lastOf kind settings = lastOf kind others) :
    encode (Value.rich (built settings)) = encode (Value.rich (built others)) := by
  have hoffers : (built settings).offers.render? = (built others).offers.render? := by
    funext capability
    rw [render?_built, render?_built, h]
  have htext : (built settings).shownText = (built others).shownText := by
    rw [Rich.shownText, Rich.shownText, text_built, text_built, h]
  rw [encode_rich, encode_rich, Offers.preferred?, Offers.preferred?, hoffers, htext]

/-- What is shown of the value that calls build: the representation of the kind that is preferred
among theirs, with the argument of the last call of that kind; where all are texts, the last one. -/
inductive Shown : List Setting → Rendered → Prop
  | offered {before after : List Setting} {setting : Setting} {capability : Capability}
      (hkind : setting.kind = .offered capability)
      (hlast : ∀ later ∈ after, later.kind ≠ .offered capability)
      (hpreferred : ∀ call ∈ before ++ setting :: after, ∀ other, call.kind = .offered other →
        Capability.priority.idxOf capability ≤ Capability.priority.idxOf other) :
      Shown (before ++ setting :: after) (.bundle (bundleShown capability setting.argument))
  | text {before : List Setting} {setting : Setting} {content : String}
      (hbefore : ∀ call ∈ before, call.kind = .text) (hkind : setting.kind = .text)
      (hargument : setting.argument = .text content) :
      Shown (before ++ [setting]) (.textual content)

/-- The last call of a kind, and what stands before and after it. -/
theorem exists_of_lastOf {kind : Kind} {settings : List Setting} {argument : Value}
    (h : lastOf kind settings = some argument) :
    ∃ before setting after, settings = before ++ setting :: after ∧ setting.kind = kind ∧
      setting.argument = argument ∧ ∀ later ∈ after, later.kind ≠ kind := by
  obtain ⟨setting, hfound, hargument⟩ := Option.map_eq_some_iff.mp h
  obtain ⟨hkind, after, before, hsettings, hafter⟩ := List.find?_eq_some_iff_append.mp hfound
  refine ⟨before.reverse, setting, after.reverse, ?_, of_decide_eq_true hkind, hargument, ?_⟩
  · rw [← List.reverse_reverse settings, hsettings]
    simp
  · intro later hlater hlaterKind
    have hnot := hafter later (List.mem_reverse.mp hlater)
    simp [hlaterKind] at hnot

theorem lastOf_ne_none {kind : Kind} {settings : List Setting} {setting : Setting}
    (h : setting ∈ settings) (hkind : setting.kind = kind) : lastOf kind settings ≠ none := by
  rw [lastOf, ne_eq, Option.map_eq_none_iff, List.find?_eq_none]
  intro hnone
  exact hnone setting (List.mem_reverse.mpr h) (decide_eq_true hkind)

/-- A kind that does not stand before another one is not preferred to it. -/
theorem idxOf_le {preferred others : List Capability} {capability other : Capability}
    (h : other ∉ preferred) : (preferred ++ capability :: others).idxOf capability ≤
      (preferred ++ capability :: others).idxOf other := by
  have hself : (preferred ++ capability :: others).idxOf capability ≤ preferred.length := by
    rw [List.idxOf_append]
    split
    · next hmem => exact (List.idxOf_lt_length_of_mem hmem).le
    · rw [List.idxOf_cons_self, Nat.zero_add]
  rw [List.idxOf_append_of_notMem h]
  omega

/-- What is shown of a value that calls build: the representation of the first kind in the order of
preference that any of them has, with its last argument, or the text. -/
theorem encode_built (settings : List Setting) :
    (∃ preferred capability others argument,
      Capability.priority = preferred ++ capability :: others ∧
        (∀ other ∈ preferred, lastOf (.offered other) settings = none) ∧
        lastOf (.offered capability) settings = some argument ∧
        encode (Value.rich (built settings)) = .bundle (bundleShown capability argument)) ∨
    (∀ capability, lastOf (.offered capability) settings = none) ∧
      encode (Value.rich (built settings)) = .textual (built settings).shownText := by
  have hrender : (built settings).offers.render? = fun capability =>
      (lastOf (.offered capability) settings).map (bundleShown capability) :=
    funext (render?_built settings)
  rw [encode_rich, Offers.preferred?, hrender]
  cases hfound : Capability.priority.findSome? fun capability =>
      (lastOf (.offered capability) settings).map (bundleShown capability) with
  | some bundle =>
      obtain ⟨preferred, capability, others, hpriority, hbundle, hnone⟩ :=
        List.findSome?_eq_some_iff.mp hfound
      obtain ⟨argument, hargument, rfl⟩ := Option.map_eq_some_iff.mp hbundle
      exact .inl ⟨preferred, capability, others, argument, hpriority,
        fun other hother => Option.map_eq_none_iff.mp (hnone other hother), hargument, rfl⟩
  | none =>
      refine .inr ⟨fun capability => ?_, rfl⟩
      exact Option.map_eq_none_iff.mp
        (List.findSome?_eq_none_iff.mp hfound capability capability.mem_priority)

/-- Calls that offer nothing are all of texts, and build the last one. -/
theorem exists_text {settings : List Setting} (hne : settings ≠ [])
    (h : ∀ capability, lastOf (.offered capability) settings = none) :
    ∃ before setting content, settings = before ++ [setting] ∧
      (∀ call ∈ settings, call.kind = .text) ∧ setting.argument = .text content ∧
      (built settings).shownText = content := by
  have htexts : ∀ call ∈ settings, call.kind = .text := by
    intro call hcall
    cases hkind : call.kind with
    | text => rfl
    | offered capability => exact absurd (h capability) (lastOf_ne_none hcall hkind)
  obtain ⟨before, setting, rfl⟩ := (List.eq_nil_or_concat' settings).resolve_left hne
  have hkind : setting.kind = .text := htexts setting (List.mem_append_right _ List.mem_cons_self)
  obtain ⟨content, hcontent⟩ : ∃ content, setting.argument = .text content := by
    have htakes := setting.takes
    rw [hkind] at htakes
    exact htakes
  refine ⟨before, setting, content, rfl, htexts, hcontent, ?_⟩
  rw [Rich.shownText, text_built, lastOf_concat, if_pos hkind, hcontent]
  rfl

/-- The value that calls build is shown as that of the preferred kind. -/
theorem shown_built {settings : List Setting} (hne : settings ≠ []) :
    Shown settings (encode (Value.rich (built settings))) := by
  rcases encode_built settings with
    ⟨preferred, capability, others, argument, hpriority, hnone, hargument, hencode⟩ |
    ⟨hnone, hencode⟩
  · rw [hencode]
    obtain ⟨before, setting, after, rfl, hkind, rfl, hlast⟩ := exists_of_lastOf hargument
    refine .offered hkind hlast fun call hcall other hother => ?_
    rw [hpriority]
    exact idxOf_le fun hpreferred => lastOf_ne_none hcall hother (hnone other hpreferred)
  · obtain ⟨before, setting, content, rfl, htexts, hcontent, htext⟩ := exists_text hne hnone
    rw [hencode, htext]
    exact .text (fun call hcall => htexts call (List.mem_append_left _ hcall))
      (htexts setting (List.mem_append_right _ List.mem_cons_self)) hcontent

/-- The bundle that an argument is shown as under each kind: a map as its entries, and anything else
by itself. -/
inductive Presents : Capability → Value → Bundle → Prop
  | mimeBundle {entries : List (String × Value)} {bundle : Bundle}
      (h : Library.OfMap entries bundle) : Presents .mimeBundle (.map entries) bundle
  | html (content : String) : Presents .html (.text content) ⟨[("text/html", .text content)]⟩
  | markdown (content : String) :
      Presents .markdown (.text content) ⟨[("text/markdown", .text content)]⟩
  | svg (content : String) : Presents .svg (.text content) ⟨[("image/svg+xml", .text content)]⟩
  | png (octets : Bytes) : Presents .png (.blob octets) ⟨[("image/png", .binary octets)]⟩
  | jpeg (octets : Bytes) : Presents .jpeg (.blob octets) ⟨[("image/jpeg", .binary octets)]⟩
  | latex (content : String) : Presents .latex (.text content) ⟨[("text/latex", .text content)]⟩
  | javascript (content : String) :
      Presents .javascript (.text content) ⟨[("application/javascript", .text content)]⟩

/-- What is shown of an argument that a kind takes, a map in the order of its keys. -/
theorem presents_bundleShown {capability : Capability} {argument : Value}
    (htakes : (Kind.offered capability).Takes argument)
    (hmap : ∀ entries, argument = .map entries → Ascending entries) :
    Presents capability argument (bundleShown capability argument) := by
  cases capability <;> obtain ⟨content, rfl⟩ := htakes
  case mimeBundle => exact .mimeBundle (Library.ofMap_bundleOf (hmap content rfl))
  all_goals constructor

/-! ## Calls -/

/-- The machine after some more steps. -/
def Machine.stepped (m : Machine) (steps : Nat) : Machine := { m with steps := m.steps + steps }

@[simp] theorem Machine.stepped_stepped (m : Machine) (steps more : Nat) :
    (m.stepped steps).stepped more = m.stepped (steps + more) := by
  rw [stepped, stepped, stepped, Nat.add_assoc]

/-- The budget has that many steps left. -/
def Frame.Affords (frame : Frame) (m : Machine) (steps : Nat) : Prop :=
  frame.code.limit = 0 ∨ m.steps + steps ≤ frame.code.limit

namespace Frame.Affords

variable {frame : Frame} {m : Machine} {steps more : Nat}

theorem left (h : frame.Affords m (steps + more)) : frame.Affords m steps :=
  h.imp_right fun hsteps => by omega

theorem right (h : frame.Affords m (steps + more)) : frame.Affords (m.stepped steps) more :=
  h.imp_right fun hsteps => by rwa [Machine.stepped, Nat.add_assoc]

theorem tick (h : frame.Affords m 1) (position : Position) :
    Run.tick frame position m = .ok () (m.stepped 1) := by
  have hlimit : (frame.code.limit != 0 && decide (m.steps + 1 > frame.code.limit)) = false := by
    rcases h with hzero | hle
    · rw [hzero]
      rfl
    · rw [decide_eq_false (Nat.not_lt.mpr hle), Bool.and_false]
  have htick : Run.tick frame position m =
      (if (frame.code.limit != 0 && decide (m.steps + 1 > frame.code.limit)) = true then
        fail .tooManyOperations position else pure () : Run Unit) (m.stepped 1) := rfl
  rw [htick, hlimit]
  rfl

end Frame.Affords

theorem Run.bind_ok {α β : Type} {run : Run α} {next : α → Run β} {m after : Machine} {a : α}
    (h : run m = .ok a after) : (run >>= next) m = next a after := by
  change EStateM.bind run next m = _
  rw [EStateM.bind, h]

theorem Run.mapM_singleton_ok {α β : Type} {f : α → Run β} {a : α} {b : β} {m after : Machine}
    (h : f a m = .ok b after) : [a].mapM f m = .ok [b] after := by
  rw [List.mapM_cons, Run.bind_ok h]
  rfl

theorem Run.ending_ok {run : Run Ended} {m after : Machine} {ended : Ended}
    (h : run m = .ok ended after) : Run.ending run m = .ok ended after := by
  have hattempt : Run.attempt run m = .ok (.ok ended) after := by
    rw [Run.attempt, h]
  rw [Run.ending, Run.bind_ok hattempt]
  rfl

section

variable {parts : Evaluators} {frame : Frame} {m : Machine} (setting : Setting)

/-- A call of a function that every script has, which changes none of its arguments. -/
theorem callNative_of_callLibrary? (hlimit : frame.Affords m 1) {constant : Bool} {name : String}
    {arguments : List Value} {position : Position} {value : Value}
    (h : ∀ callFor, callLibrary? callFor constant name arguments position =
      some (pure (none, .ok value))) :
    callNative parts frame constant name arguments position m =
      .ok (none, .ok value) (m.stepped 1) := by
  refine Run.ending_ok ?_
  rw [Run.bind_ok (hlimit.tick position)]
  simp only [h]
  rfl

theorem callLibrary?_construct (callFor : CallFor) (constant : Bool) (position : Position) :
    callLibrary? callFor constant setting.kind.name [setting.argument] position =
      some (pure (none, .ok (.rich (built [setting])))) := by
  rcases setting with ⟨_ | capability, argument, takes⟩
  · obtain ⟨content, rfl⟩ := takes
    rfl
  · cases capability <;> obtain ⟨content, rfl⟩ := takes <;> rfl

theorem callLibrary?_set (callFor : CallFor) (constant : Bool) (rich : Rich) (position : Position) :
    callLibrary? callFor constant setting.kind.name [.rich rich, setting.argument] position =
      some (pure (none, .ok (.rich (rich.set setting)))) := by
  rcases setting with ⟨_ | capability, argument, takes⟩
  · obtain ⟨content, rfl⟩ := takes
    rfl
  · cases capability <;> obtain ⟨content, rfl⟩ := takes <;> rfl

/-- A method by the name of a constructor goes by its name. -/
theorem callMethod_eq (rich : Rich) (constant : Bool) (place position : Position) :
    callMethod parts frame ⟨.rich rich, constant⟩ setting.kind.name [setting.argument] place
        position =
      match frame.code.function? setting.kind.name 1 with
      | some f =>
        callFunction parts frame f (some ⟨.rich rich, constant⟩) [setting.argument] position
      | none =>
        callNative parts frame constant setting.kind.name [.rich rich, setting.argument]
          position := by
  rcases setting with ⟨_ | capability, argument, takes⟩
  · rfl
  · cases capability <;> rfl

variable (parts) in
/-- A constructor is called as a method: it answers a new value, and the one it was called on has
not changed. -/
theorem callMethod_set (hlimit : frame.Affords m 1)
    (hfree : frame.code.function? setting.kind.name 1 = none) (rich : Rich) (constant : Bool)
    (place position : Position) :
    callMethod parts frame ⟨.rich rich, constant⟩ setting.kind.name [setting.argument] place
        position m =
      .ok (none, .ok (.rich (rich.set setting))) (m.stepped 1) := by
  rw [callMethod_eq, hfree]
  exact callNative_of_callLibrary? hlimit fun callFor =>
    callLibrary?_set setting callFor constant rich position

variable (parts) in
/-- A constructor is called by its name. -/
theorem callNamed_construct (hlimit : frame.Affords m 1)
    (hfree : frame.code.function? setting.kind.name 1 = none) (position : Position) :
    callNamed parts frame setting.kind.name [setting.argument] position m =
      .ok (none, .ok (.rich (built [setting]))) (m.stepped 1) := by
  have hnamed : callNamed parts frame setting.kind.name [setting.argument] position =
      match frame.code.function? setting.kind.name 1 with
      | some f => callFunction parts frame f none [setting.argument] position
      | none => callNative parts frame false setting.kind.name [setting.argument] position := rfl
  rw [hnamed, hfree]
  exact callNative_of_callLibrary? hlimit fun callFor =>
    callLibrary?_construct setting callFor false position

end

/-! ## Chains -/

/-- A call in a chain as it is written, with what its argument comes to. -/
structure ChainCall where
  setting : Setting
  argument : Expr
  optional : Bool
  position : Position

namespace ChainCall

/-- The call as a step of a chain. -/
def step (call : ChainCall) : Step :=
  .method call.setting.kind.name [call.argument] call.optional call.position

/-- The step with its argument evaluated. -/
def taken (call : ChainCall) : Taken :=
  .method call.setting.kind.name [call.setting.argument] call.optional call.argument.position
    call.position

/-- The call as the beginning of a chain. -/
def base (call : ChainCall) : Expr :=
  .call call.setting.kind.name [call.argument] call.position

/-- No function of the script goes by the name of the constructor. -/
def Free (frame : Frame) (call : ChainCall) : Prop :=
  frame.code.function? call.setting.kind.name 1 = none

end ChainCall

/-- The chain of a call and of those made on its answer. -/
def chainOf (first : ChainCall) (calls : List ChainCall) : Expr :=
  if calls.isEmpty then first.base else .chain first.base (calls.map ChainCall.step)

section

variable {parts : Evaluators} {frame : Frame} {m after : Machine} {calls : List ChainCall}

/-- The arguments of calls come to what they should, one after another. -/
inductive Argues (parts : Evaluators) (frame : Frame) : List ChainCall → Machine → Machine → Prop
  | nil (m : Machine) : Argues parts frame [] m m
  | cons {call : ChainCall} {calls : List ChainCall} {m between after : Machine}
      (h : parts.expression frame call.argument m = .ok call.setting.argument between)
      (hrest : Argues parts frame calls between after) : Argues parts frame (call :: calls) m after

theorem Argues.takeSteps (h : Argues parts frame calls m after) :
    takeSteps parts frame (calls.map ChainCall.step) m = .ok (calls.map ChainCall.taken) after := by
  induction h with
  | nil m => rfl
  | @cons call calls m between after h hrest ih =>
      have harguments : [call.argument].mapM (parts.expression frame) m =
          .ok [call.setting.argument] between := Run.mapM_singleton_ok h
      rw [Script.takeSteps] at ih ⊢
      rw [List.map_cons, List.mapM_cons, ChainCall.step, bind_assoc, Run.bind_ok harguments,
        pure_bind, Run.bind_ok ih]
      rfl

variable (parts) in
/-- Calls are made one after another, and the value they are made on has not changed. -/
theorem walk_calls (hfree : ∀ call ∈ calls, call.Free frame) (fixed : Option Fixed) (rich : Rich)
    (hlimit : frame.Affords m calls.length) :
    walk parts frame fixed none (.rich rich) (calls.map ChainCall.taken) m =
      .ok (none, .ok (.rich ((calls.map ChainCall.setting).foldl Rich.set rich)))
        (m.stepped calls.length) := by
  induction calls generalizing m fixed rich with
  | nil => rfl
  | cons call calls ih =>
      have hlimit : frame.Affords m (1 + calls.length) := Nat.add_comm _ _ ▸ hlimit
      have hcall := callMethod_set parts call.setting hlimit.left
        (hfree call List.mem_cons_self) rich fixed.isSome call.argument.position call.position
      have hrest := ih (fun later hlater => hfree later (List.mem_cons_of_mem _ hlater)) none
        (rich.set call.setting) hlimit.right
      rw [List.map_cons, ChainCall.taken, walk]
      · -- A rich value is not `()`, so it does not matter whether the call is optional.
        rw [ite_self]
        dsimp only
        rw [Run.bind_ok hcall]
        dsimp only
        rw [Run.bind_ok hrest, Machine.stepped_stepped, Nat.add_comm 1]
        rfl
      · intro hunit
        cases hunit

/-- What the argument of a call comes to: a variable is looked up, and anything else evaluated. -/
def argumentOf (parts : Evaluators) (frame : Frame) : Expr → Run Value
  | .name name bound place => do
    if frame.namesFunction name bound then return .function (.named name) []
    else
      match ← find? name with
      | none => fail (.variableNotFound name) place
      | some binding => flatten binding.value
  | e => parts.expression frame e

/-- A call that changes none of its arguments answers what is made of the argument. -/
theorem evaluateArguments_of_argument {e : Expr} {invoke : List Value → Run Ended}
    {argument value : Value} {between : Machine}
    (hargument : argumentOf parts frame e m = .ok argument between)
    (hinvoke : invoke [argument] between = .ok (none, .ok value) after) :
    evaluateArguments parts frame invoke [e] m = .ok value after := by
  unfold argumentOf at hargument
  split at hargument
  · next name bound place =>
      have hfind : find? name m = .ok (m.scope.find? (·.name == name)) m := rfl
      rw [evaluateArguments, List.mapM_nil, pure_bind]
      split at hargument
      · next hfunction =>
          cases hargument
          rw [if_pos hfunction, Run.bind_ok hinvoke]
          rfl
      · next hfunction =>
          rw [if_neg hfunction, Run.bind_ok hfind]
          rw [Run.bind_ok hfind] at hargument
          cases hbinding : m.scope.find? (·.name == name) with
          | none =>
              rw [hbinding] at hargument
              cases hargument
          | some binding =>
              rw [hbinding] at hargument
              dsimp only at hargument ⊢
              rw [Run.bind_ok hargument, Run.bind_ok hinvoke]
              rfl
  · next hname =>
      have harguments : [e].mapM (parts.expression frame) m = .ok [argument] between :=
        Run.mapM_singleton_ok hargument
      have hplain : evaluateArguments parts frame invoke [e] =
          (do settle (← invoke (← [e].mapM (parts.expression frame))).2) := by
        unfold evaluateArguments
        split
        · next name bound place rest heq =>
            obtain ⟨rfl, -⟩ := List.cons.inj heq
            exact (hname name bound place rfl).elim
        · rfl
      rw [hplain, Run.bind_ok harguments, Run.bind_ok hinvoke]
      rfl

/-- A chain is evaluated to the end: its arguments come to what they should, and the budget
suffices. -/
inductive Evaluates (frame : Frame) (first : ChainCall) :
    Nat → List ChainCall → Machine → Machine → Prop
  | call {fuel : Nat} {m argued : Machine} (hfree : first.Free frame) (hlimit : frame.Affords m 1)
      (hargument : argumentOf (evaluators fuel) frame first.argument (m.stepped 1) =
        .ok first.setting.argument argued)
      (hcall : frame.Affords argued 1) : Evaluates frame first fuel [] m (argued.stepped 1)
  | chain {fuel : Nat} {calls : List ChainCall} {m argued made : Machine} (hne : calls ≠ [])
      (hfree : ∀ call ∈ calls, call.Free frame) (hlimit : frame.Affords m 1)
      (harguments : Argues (evaluators (fuel + 1)) frame calls (m.stepped 1) argued)
      (hfirst : Evaluates frame first fuel [] argued made)
      (hcalls : frame.Affords made calls.length) :
      Evaluates frame first (fuel + 1) calls m (made.stepped calls.length)

/-- No call of a constructor is one of the chains that are evaluated apart. -/
theorem evaluateExpression_chain (base : Expr) :
    evaluateExpression parts frame (.chain base (calls.map ChainCall.step)) = (do
      tick frame (Expr.chain base (calls.map ChainCall.step)).position
      evaluateChain parts frame base (calls.map ChainCall.step) none) := by
  rw [evaluateExpression]
  simp [ChainCall.step]

/-- A chain comes to the value that its calls build. -/
theorem Evaluates.evaluateExpression {first : ChainCall} {fuel : Nat}
    (h : Evaluates frame first fuel calls m after) :
    evaluateExpression (evaluators fuel) frame (chainOf first calls) m =
      .ok (.rich (built ((first :: calls).map ChainCall.setting))) after := by
  induction h with
  | @call fuel m argued hfree hlimit hargument hcall =>
      have hanswer := callNamed_construct (evaluators fuel) first.setting hcall hfree
        first.position
      change Script.evaluateExpression (evaluators fuel) frame
        (.call first.setting.kind.name [first.argument] first.position) m = _
      rw [Script.evaluateExpression, Run.bind_ok (hlimit.tick _),
        evaluateCall_of_notMem first.setting.kind.name_notMem]
      exact evaluateArguments_of_argument hargument hanswer
  | @chain fuel calls m argued made hne hfree hlimit harguments hfirst hcalls ih =>
      obtain ⟨call, rest, rfl⟩ := List.exists_cons_of_ne_nil hne
      have hwalk := walk_calls (evaluators (fuel + 1)) hfree none
        (built [first.setting]) hcalls
      have hbase : (evaluators (fuel + 1)).expression frame first.base argued =
          .ok (.rich (built [first.setting])) made := ih
      rw [chainOf, if_neg (by simp), evaluateExpression_chain, Run.bind_ok (hlimit.tick _),
        evaluateChain, Run.bind_ok harguments.takeSteps]
      dsimp only [ChainCall.base] at hbase ⊢
      rw [Run.bind_ok hbase, Run.bind_ok hwalk]
      rfl

/-- What is shown of a chain whose maps are in order: the first kind that it names, in the order in
which kinds are written out here, as the last argument of that kind is presented; and the last text,
if it names none of these. -/
theorem Evaluates.exists_presents {first : ChainCall} {fuel : Nat}
    (h : Evaluates frame first fuel calls m after)
    (hmaps : ∀ call ∈ first :: calls, ∀ entries, call.setting.argument = .map entries →
      Ascending entries) :
    let settings := (first :: calls).map ChainCall.setting
    ∃ value, Script.evaluateExpression (evaluators fuel) frame (chainOf first calls) m =
        .ok value after ∧
      ((∃ preferred capability others argument bundle,
        [.mimeBundle, .html, .markdown, .svg, .png, .jpeg, .latex, .javascript] =
            preferred ++ capability :: others ∧
          (∀ other ∈ preferred, lastOf (.offered other) settings = none) ∧
          lastOf (.offered capability) settings = some argument ∧
          Presents capability argument bundle ∧ encode value = .bundle bundle) ∨
        ∃ before setting content, settings = before ++ [setting] ∧
          (∀ call ∈ settings, call.kind = .text) ∧ setting.argument = .text content ∧
          encode value = .textual content) := by
  intro settings
  refine ⟨_, h.evaluateExpression, ?_⟩
  rcases encode_built settings with
    ⟨preferred, capability, others, argument, hpriority, hnone, hargument, hencode⟩ |
    ⟨hnone, hencode⟩
  · refine .inl ⟨preferred, capability, others, argument, _, hpriority, hnone, hargument, ?_,
      hencode⟩
    obtain ⟨before, setting, later, hsettings, hkind, rfl, -⟩ := exists_of_lastOf hargument
    have hmem : setting ∈ settings := by
      rw [hsettings]
      exact List.mem_append_right _ List.mem_cons_self
    obtain ⟨call, hcall, rfl⟩ := List.mem_map.mp hmem
    exact presents_bundleShown (hkind ▸ call.setting.takes) (hmaps call hcall)
  · have hne : settings ≠ [] := List.cons_ne_nil _ _
    obtain ⟨before, setting, content, hsettings, htexts, hcontent, htext⟩ := exists_text hne hnone
    refine .inr ⟨before, setting, content, hsettings, htexts, hcontent, ?_⟩
    rw [hencode, htext]

/-- A variable in scope that stands for a value. -/
def Machine.Reads (m : Machine) (name : String) (value : Value) : Prop :=
  ∃ binding, m.scope.find? (·.name == name) = some binding ∧
    Run.flatten binding.value m = .ok value m

/-- Nothing but steps leaves the variables as they are. -/
theorem Machine.Reads.stepped {name : String} {value : Value} (h : m.Reads name value)
    (steps : Nat) : (m.stepped steps).Reads name value := by
  obtain ⟨binding, hbinding, hvalue⟩ := h
  refine ⟨binding, hbinding, ?_⟩
  cases hshared : binding.value <;> rw [hshared] at hvalue <;> cases hvalue <;> rfl

theorem evaluateExpression_name {name : String} {bound : Bool} {value : Value}
    (hname : frame.namesFunction name bound = false) (h : m.Reads name value)
    (hlimit : frame.Affords m 1) (place : Position) :
    evaluateExpression parts frame (.name name bound place) m = .ok value (m.stepped 1) := by
  obtain ⟨binding, hbinding, hvalue⟩ := h.stepped 1
  have hfind : find? name (m.stepped 1) = .ok (some binding) (m.stepped 1) := by
    rw [← hbinding]
    rfl
  rw [evaluateExpression, Run.bind_ok (hlimit.tick _), hname, if_neg Bool.false_ne_true,
    Run.bind_ok hfind]
  exact hvalue

theorem exists_current {binding : Binding} {value : Value}
    (h : Run.flatten binding.value m = .ok value m) :
    ∃ constant, current binding m = .ok (value, constant) m := by
  unfold current
  cases hshared : binding.value with
  | shared cell =>
      rw [hshared] at h
      let held : Cell := (m.cells[cell]?).getD ⟨.unit, false, rfl⟩
      have hheld : held.value = value := by
        cases h
        cases hcell : m.cells[cell]? <;> simp [held, hcell]
      refine ⟨binding.constant || held.constant, ?_⟩
      rw [← hheld]
      rfl
  | _ =>
      rw [hshared] at h
      cases h
      exact ⟨_, rfl⟩

/-- Calls on a variable come to a new value, and nothing but steps has been taken. -/
theorem evaluateExpression_onVariable {name : String} {bound : Bool} {rich : Rich} {fuel : Nat}
    {argued : Machine} (hname : frame.namesFunction name bound = false)
    (hfree : ∀ call ∈ calls, call.Free frame) (hlimit : frame.Affords m 1)
    (harguments : Argues (evaluators fuel) frame calls (m.stepped 1) argued)
    (hvalue : argued.Reads name (.rich rich)) (hcalls : frame.Affords argued (1 + calls.length))
    (place : Position) :
    evaluateExpression (evaluators fuel) frame
        (.chain (.name name bound place) (calls.map ChainCall.step)) m =
      .ok (.rich ((calls.map ChainCall.setting).foldl Rich.set rich))
        (argued.stepped (1 + calls.length)) := by
  obtain ⟨binding, hbinding, hread⟩ := hvalue.stepped 1
  have hfind : find? name (argued.stepped 1) = .ok (some binding) (argued.stepped 1) := by
    rw [← hbinding]
    rfl
  obtain ⟨constant, hcurrent⟩ := exists_current hread
  have hwalk := walk_calls (evaluators fuel) hfree
    (if constant then some ⟨name, place⟩ else none) rich hcalls.right
  rw [evaluateExpression_chain, Run.bind_ok (hlimit.tick _), evaluateChain,
    Run.bind_ok harguments.takeSteps]
  dsimp only
  rw [Run.bind_ok (hcalls.left.tick _), hname, if_neg Bool.false_ne_true, Run.bind_ok hfind]
  dsimp only
  rw [Run.bind_ok hcurrent]
  dsimp only
  rw [Run.bind_ok hwalk, Machine.stepped_stepped]
  rfl

end

/-- A chain of constructors of rich values comes to the value that its calls build, wherever its
arguments come to what they should.  What is shown of that is the representation of the kind that is
preferred among those of the chain, with the argument of the last call of that kind, or the last
text where all are texts; so chains that agree on the last argument of each kind are shown alike.
The value that calls are made on does not change, whether it belongs to a constant or not, and a
variable is read afterwards as before. -/
theorem chain_shown :
    (∀ {frame : Frame} {first : ChainCall} {fuel : Nat} {calls : List ChainCall}
      {m after : Machine}, Evaluates frame first fuel calls m after →
        evaluateExpression (evaluators fuel) frame (chainOf first calls) m =
          .ok (.rich (built ((first :: calls).map ChainCall.setting))) after) ∧
    (∀ settings, settings ≠ [] → Shown settings (encode (Value.rich (built settings)))) ∧
    (∀ settings others, (∀ kind, lastOf kind settings = lastOf kind others) →
      encode (Value.rich (built settings)) = encode (Value.rich (built others))) ∧
    (∀ {parts : Evaluators} {frame : Frame} {calls : List ChainCall} {m : Machine},
      (∀ call ∈ calls, call.Free frame) → frame.Affords m calls.length →
        ∀ (fixed : Option Fixed) (before : List Setting),
          walk parts frame fixed none (.rich (built before)) (calls.map ChainCall.taken) m =
            .ok (none, .ok (.rich (built (before ++ calls.map ChainCall.setting))))
              (m.stepped calls.length)) ∧
    ∀ {frame : Frame} {fuel : Nat} {name : String} {bound : Bool} {before : List Setting}
      {calls : List ChainCall} {m argued : Machine},
      frame.namesFunction name bound = false → (∀ call ∈ calls, call.Free frame) →
      frame.Affords m 1 → Argues (evaluators fuel) frame calls (m.stepped 1) argued →
      argued.Reads name (.rich (built before)) → frame.Affords argued (1 + calls.length + 1) →
        ∀ place : Position,
          let after := argued.stepped (1 + calls.length)
          evaluateExpression (evaluators fuel) frame
              (.chain (.name name bound place) (calls.map ChainCall.step)) m =
            .ok (.rich (built (before ++ calls.map ChainCall.setting))) after ∧
          evaluateExpression (evaluators fuel) frame (.name name bound place) after =
            .ok (.rich (built before)) (after.stepped 1) := by
  have hbuilt (before more : List Setting) :
      more.foldl Rich.set (built before) = built (before ++ more) := List.foldl_append.symm
  refine ⟨fun h => h.evaluateExpression, fun settings hne => shown_built hne,
    fun settings others h => encode_built_congr h, ?_, ?_⟩
  · intro parts frame calls m hfree hlimit fixed before
    rw [walk_calls parts hfree fixed _ hlimit, hbuilt]
  · intro frame fuel name bound before calls m argued hname hfree hlimit harguments hvalue hcalls
      place
    refine ⟨?_, evaluateExpression_name hname (hvalue.stepped _) hcalls.right place⟩
    rw [evaluateExpression_onVariable hname hfree hlimit harguments hvalue hcalls.left place,
      hbuilt]

example : (evaluateSource 0 .empty
    "html(\"a\").mimebundle(#\x7b\"text/plain\": 7\x7d).text(\"t\").html(\"b\")").outcome.map
      (Option.map encode) = .ok (some (.bundle ⟨[("text/plain", .text "7")]⟩)) := by
  decide +kernel

/-- The entries of a map are shown and not a page or a text, although those are set later; and a
variable that holds the page is shown as before. -/
theorem chain_shown_mimebundle :
    let html (content : String) : Setting := ⟨.offered .html, .text content, content, rfl⟩
    let text (content : String) : Setting := ⟨.text, .text content, content, rfl⟩
    let mimebundle (entries : List (String × Value)) : Setting :=
      ⟨.offered .mimeBundle, .map entries, entries, rfl⟩
    let entries := [("image/png", Value.blob [0x89]), ("text/plain", .int 7)]
    let call (setting : Setting) : ChainCall :=
      ⟨setting, .literal setting.argument .start, false, .start⟩
    let first := call (html "a")
    let calls := [call (mimebundle entries), call (text "t"), call (html "b")]
    let frame : Frame := ⟨⟨[], [], 0⟩, 0⟩
    let m : Machine := ⟨[⟨"v", false, .rich (built [html "a"])⟩], none, [], [], 0⟩
    let settings := [html "a", mimebundle entries, text "t", html "b"]
    evaluateExpression (evaluators 2) frame (chainOf first calls) m =
        .ok (.rich (built settings)) (m.stepped 10) ∧
      Shown settings
        (.bundle ⟨[("image/png", .binary [0x89]), ("text/plain", .text "7")]⟩) ∧
      encode (Value.rich (built [html "b"])) = encode (Value.rich (built [html "a", html "b"])) ∧
      evaluateExpression (evaluators 2) frame
          (.chain (.name "v" true .start) (calls.map ChainCall.step)) m =
        .ok (.rich (built settings)) (m.stepped 8) ∧
      evaluateExpression (evaluators 2) frame (.name "v" true .start) (m.stepped 8) =
        .ok (.rich (built [html "a"])) (m.stepped 9) := by
  intro html text mimebundle entries call first calls frame m settings
  obtain ⟨hchain, hshown, halike, -, hvariable⟩ := chain_shown
  have hfree : ∀ call ∈ calls, call.Free frame := fun call _ => rfl
  have harguments {m : Machine} : Argues (evaluators 2) frame calls m (m.stepped 3) :=
    .cons rfl (.cons rfl (.cons rfl (.nil _)))
  have hfirst {m : Machine} : Evaluates frame first 1 [] m ((m.stepped 2).stepped 1) :=
    .call rfl (.inl rfl) rfl (.inl rfl)
  have hlast : ∀ kind, lastOf kind [html "b"] = lastOf kind [html "a", html "b"] := by
    rintro (_ | capability)
    · rfl
    · cases capability <;> rfl
  have hv : ((m.stepped 1).stepped 3).Reads "v" (.rich (built [html "a"])) := ⟨_, rfl, rfl⟩
  have hname : frame.namesFunction "v" true = false := rfl
  obtain ⟨hcalled, hread⟩ :=
    hvariable hname hfree (.inl rfl) harguments hv (.inl rfl) .start
  have hevaluates : Evaluates frame first 2 calls m (m.stepped 10) :=
    .chain (List.cons_ne_nil _ _) hfree (.inl rfl) harguments hfirst (.inl rfl)
  have hne : settings ≠ [] := List.cons_ne_nil _ _
  exact ⟨hchain hevaluates, hshown settings hne, halike _ _ hlast, hcalled, hread⟩

end Cellbook.Script
