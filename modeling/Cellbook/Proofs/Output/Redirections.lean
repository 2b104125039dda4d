import Cellbook.Output.Routing

/-!
# Redirections and their guards

Whoever redirects the output of a thread holds a guard for it, and the guards are all there is: no
list of the redirections is kept anywhere, and a guard knows only what was in place when it was
created.  `Redirections` is the routing of texts as one thread sees it, together with the guards
that are held, which are numbered in the order of their creation.

Every redirection brings a sink of its own, so that a sink says whose it is (`Sink`).  What is in
place and what the guards keep may form a chain (`Linked`): the newest redirection is in place, and
every guard keeps the redirection before its own.
-/

namespace Cellbook.Output

/-- A sink: the own one of a redirection, or one that is installed in streams. -/
inductive Sink (κ : Type) where
  /-- The sink of a redirection, by its number. -/
  | own (number : Nat)
  | shared (sink : κ)
  deriving Repr, DecidableEq

/-- What the sink of a redirection writes itself while it handles a text, and on which streams. -/
abbrev Reaction := String → List (StreamId × String)

/-- The routing of texts as a thread sees it, with the guards that are held. -/
structure Redirections (thread : ThreadId) (κ : Type) where
  routing : Routing (Sink κ)
  /-- How many redirections were made. -/
  made : Nat
  /-- The guards that are held, by the numbers of their redirections, the newest first. -/
  held : List (Nat × Guard (Sink κ))

namespace Redirections

variable {thread : ThreadId} {κ : Type}

/-- Streams with sinks installed, and no redirection. -/
def start (sinks : StreamId → κ) : Redirections thread κ :=
  ⟨.start fun stream => .shared (sinks stream), 0, []⟩

variable (now : Redirections thread κ)

/-- The capture that takes what the thread writes. -/
def inPlace : Option (Capture (Sink κ)) := now.routing.capture thread

/-- The numbers of the redirections whose guards are held, the newest first. -/
def numbers : List Nat := now.held.map Prod.fst

/-- Redirects what the thread writes to a new sink. -/
def redirect (reaction : Reaction) : Redirections thread κ :=
  let (routing, guard) := now.routing.redirect thread ⟨.own now.made, reaction⟩
  ⟨routing, now.made + 1, (now.made, guard) :: now.held⟩

/-- Has the sink in place, which may change as it handles texts, write another reaction. -/
def alter (reaction : Reaction) : Redirections thread κ :=
  let altered := now.inPlace.map fun capture => { capture with reaction := reaction }
  { now with routing := now.routing.setCapture thread altered }

/-- Drops the newest guard that is held, if there is one. -/
def dropNewest : Redirections thread κ :=
  match now.held with
  | [] => now
  | (_, guard) :: held => { now with routing := now.routing.drop guard, held := held }

/-- The guard of a redirection, if it is held. -/
def guard? (number : Nat) : Option (Guard (Sink κ)) :=
  (now.held.find? fun entry => entry.1 == number).map Prod.snd

/-- Drops the guard of a redirection, if it is held. -/
def drop (number : Nat) : Redirections thread κ :=
  match now.guard? number with
  | none => now
  | some guard =>
    { now with
      routing := now.routing.drop guard
      held := now.held.filter fun entry => entry.1 != number }

/-- Installs a sink in a stream; answers the one it had. -/
def replace (stream : StreamId) (sink : κ) : Redirections thread κ × Sink κ :=
  let (routing, previous) := now.routing.replace stream (.shared sink)
  ({ now with routing := routing }, previous)

/-- Writes a text on a stream; answers where it was delivered. -/
def write (stream : StreamId) (text : String) : List (Sink κ × String) :=
  now.routing.write thread stream text

@[simp] theorem inPlace_redirect (reaction : Reaction) :
    (now.redirect reaction).inPlace = some ⟨.own now.made, reaction⟩ :=
  now.routing.capture_setCapture_self thread _

@[simp] theorem held_redirect (reaction : Reaction) :
    (now.redirect reaction).held = (now.made, ⟨thread, now.inPlace⟩) :: now.held := rfl

@[simp] theorem inPlace_alter (reaction : Reaction) :
    (now.alter reaction).inPlace =
      now.inPlace.map fun capture => { capture with reaction := reaction } :=
  now.routing.capture_setCapture_self thread _

end Redirections

/-! ## Chains -/

/-- What is in place is the newest redirection, and every guard keeps the one before its own. -/
inductive Linked (thread : ThreadId) {κ : Type} :
    Option (Capture (Sink κ)) → List (Nat × Guard (Sink κ)) → List (Nat × Reaction) → Prop
  | nil : Linked thread none [] []
  | cons {inPlace : Option (Capture (Sink κ))} {held : List (Nat × Guard (Sink κ))}
      {live : List (Nat × Reaction)} (h : Linked thread inPlace held live) (number : Nat)
      (reaction : Reaction) :
      Linked thread (some ⟨.own number, reaction⟩) ((number, ⟨thread, inPlace⟩) :: held)
        ((number, reaction) :: live)

namespace Linked

variable {thread : ThreadId} {κ : Type} {now : Redirections thread κ}
  {live : List (Nat × Reaction)}

theorem redirect (h : Linked thread now.inPlace now.held live) (reaction : Reaction) :
    Linked thread (now.redirect reaction).inPlace (now.redirect reaction).held
      ((now.made, reaction) :: live) := by
  rw [Redirections.inPlace_redirect, Redirections.held_redirect]
  exact h.cons now.made reaction

/-- A sink that changes is the sink of the same redirection. -/
theorem alter (h : Linked thread now.inPlace now.held live) (reaction : Reaction) :
    Linked thread (now.alter reaction).inPlace (now.alter reaction).held
      (live.modifyHead fun redirection => (redirection.1, reaction)) := by
  rw [Redirections.inPlace_alter]
  change Linked thread _ now.held _
  generalize now.inPlace = inPlace at h ⊢
  generalize now.held = held at h ⊢
  cases h with
  | nil => exact .nil
  | cons hbelow number _ => exact hbelow.cons number reaction

/-- Dropping the newest guard puts the redirection before its own back in place. -/
theorem dropNewest (h : Linked thread now.inPlace now.held live) :
    Linked thread now.dropNewest.inPlace now.dropNewest.held live.tail := by
  rcases now with ⟨routing, made, held⟩
  generalize hplace : (⟨routing, made, held⟩ : Redirections thread κ).inPlace = inPlace at h
  cases h with
  | nil =>
      rw [Redirections.dropNewest, hplace]
      exact .nil
  | @cons previous held live hbelow number reaction =>
      have hdrop : (routing.drop ⟨thread, previous⟩).capture thread = previous :=
        routing.capture_setCapture_self thread previous
      rw [Redirections.dropNewest, Redirections.inPlace, hdrop]
      exact hbelow

/-- The guards that are held are those of the redirections in the chain. -/
theorem map_fst_eq {inPlace : Option (Capture (Sink κ))} {held : List (Nat × Guard (Sink κ))}
    (h : Linked thread inPlace held live) : held.map Prod.fst = live.map Prod.fst := by
  induction h with
  | nil => rfl
  | cons _ number reaction ih => exact congrArg (number :: ·) ih

/-- Where no guard is held no redirection is in place. -/
theorem eq_none_of_eq_nil {inPlace : Option (Capture (Sink κ))}
    {held : List (Nat × Guard (Sink κ))} (h : Linked thread inPlace held live)
    (hheld : held = []) : inPlace = none := by
  cases h with
  | nil => rfl
  | cons _ number reaction => exact nomatch hheld

end Linked

end Cellbook.Output
