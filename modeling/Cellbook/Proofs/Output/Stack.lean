import Cellbook.Proofs.Output.Redirections
import Mathlib.Logic.Function.Basic

/-!
# Nested redirections

As long as guards are dropped newest first, one by one or many at once as a panic unwinds, the
redirections of a thread are a stack, although nothing stores one: a text goes to the newest
redirection whose guard is held, and to the sink installed in its stream where no guard is held.

`Stack` is that stack, with the sinks installed in streams beside it.  Whatever is done to the
redirections of a thread is answered as the stack answers it (`performAll_eq_stack`); what carries
this from one operation to the next is that the guards are linked to one another
(`Follows.perform`).
-/

namespace Cellbook.Output

variable {thread : ThreadId} {κ : Type}

/-! ## Operations -/

/-- What may be done on a thread whose redirections are nested. -/
inductive Operation (κ : Type) where
  /-- Redirects, through any stream, to a sink that writes the texts of its reaction itself. -/
  | redirect (stream : StreamId) (reaction : Reaction)
  /-- The sink in place has changed, and writes another reaction from now on. -/
  | alter (reaction : Reaction)
  /-- Drops the newest guard. -/
  | drop
  /-- Drops the newest guards, as many as a panic finds in the scopes that it leaves. -/
  | unwind (count : Nat)
  | replace (stream : StreamId) (sink : κ)
  | write (stream : StreamId) (text : String)

/-- What an operation is answered. -/
inductive Reply (κ : Type) where
  | done
  /-- The sink that was installed before. -/
  | replaced (sink : Sink κ)
  /-- The texts delivered, each with its sink, in order. -/
  | delivered (texts : List (Sink κ × String))

namespace Redirections

/-- Drops the newest guards, newest first. -/
def unwind (now : Redirections thread κ) : Nat → Redirections thread κ
  | 0 => now
  | count + 1 => now.dropNewest.unwind count

/-- Does what is asked. -/
def perform (now : Redirections thread κ) : Operation κ → Redirections thread κ × Reply κ
  | .redirect _ reaction => (now.redirect reaction, .done)
  | .alter reaction => (now.alter reaction, .done)
  | .drop => (now.dropNewest, .done)
  | .unwind count => (now.unwind count, .done)
  | .replace stream sink =>
    let (now, previous) := now.replace stream sink
    (now, .replaced previous)
  | .write stream text => (now, .delivered (now.write stream text))

/-- Does what is asked, one operation after another. -/
def performAll (now : Redirections thread κ) :
    List (Operation κ) → Redirections thread κ × List (Reply κ)
  | [] => (now, [])
  | operation :: operations =>
    let (now, reply) := now.perform operation
    let (now, replies) := now.performAll operations
    (now, reply :: replies)

end Redirections

/-! ## The stack -/

/-- Redirections as a stack, with the sinks installed in streams. -/
structure Stack (κ : Type) where
  /-- How many redirections were made. -/
  made : Nat
  /-- The redirections whose guards are held, with their reactions, the newest first. -/
  live : List (Nat × Reaction)
  installed : StreamId → κ

namespace Stack

/-- Sinks installed in streams, and no redirection. -/
def start (sinks : StreamId → κ) : Stack κ := ⟨0, [], sinks⟩

/-- A text goes to the newest redirection, whose sink writes to the sinks installed in streams; if
there is none, it goes to the sink installed in its own. -/
def write (stack : Stack κ) (stream : StreamId) (text : String) : List (Sink κ × String) :=
  match stack.live with
  | [] => [(.shared (stack.installed stream), text)]
  | (number, reaction) :: _ =>
    (.own number, text) :: (reaction text).map fun w => (.shared (stack.installed w.1), w.2)

/-- Does what is asked. -/
def perform (stack : Stack κ) : Operation κ → Stack κ × Reply κ
  | .redirect _ reaction =>
    (⟨stack.made + 1, (stack.made, reaction) :: stack.live, stack.installed⟩, .done)
  | .alter reaction =>
    let live := stack.live.modifyHead fun redirection => (redirection.1, reaction)
    ({ stack with live := live }, .done)
  | .drop => ({ stack with live := stack.live.tail }, .done)
  | .unwind count => ({ stack with live := stack.live.drop count }, .done)
  | .replace stream sink =>
    ({ stack with installed := Function.update stack.installed stream sink },
      .replaced (.shared (stack.installed stream)))
  | .write stream text => (stack, .delivered (stack.write stream text))

/-- Does what is asked, one operation after another. -/
def performAll (stack : Stack κ) : List (Operation κ) → Stack κ × List (Reply κ)
  | [] => (stack, [])
  | operation :: operations =>
    let (stack, reply) := stack.perform operation
    let (stack, replies) := stack.performAll operations
    (stack, reply :: replies)

end Stack

/-! ## Redirections that follow a stack -/

/-- The guards that are held are linked as the stack is, and the same sinks are installed. -/
structure Follows (now : Redirections thread κ) (stack : Stack κ) : Prop where
  linked : Linked thread now.inPlace now.held stack.live
  installed : ∀ stream, now.routing.destination stream = .shared (stack.installed stream)
  made : now.made = stack.made

namespace Follows

variable {now : Redirections thread κ} {stack : Stack κ}

theorem start (sinks : StreamId → κ) :
    Follows (.start sinks : Redirections thread κ) (.start sinks) where
  linked := .nil
  installed _ := rfl
  made := rfl

/-- A text is delivered as the stack has it. -/
theorem write_eq (h : Follows now stack) (stream : StreamId) (text : String) :
    now.write stream text = stack.write stream text := by
  rcases stack with ⟨made, live, installed⟩
  obtain ⟨hlinked, hinstalled, -⟩ := h
  generalize hplace : now.inPlace = inPlace at hlinked
  generalize hheld : now.held = held at hlinked
  rw [Redirections.write]
  cases hlinked with
  | nil => rw [Routing.write_of_none hplace, hinstalled, Stack.write]
  | cons hbelow number reaction =>
      rw [Routing.write_of_some hplace, Stack.write]
      simp only [hinstalled]

theorem redirect (h : Follows now stack) (stream : StreamId) (reaction : Reaction) :
    Follows (now.redirect reaction) (stack.perform (.redirect stream reaction)).1 where
  linked := by
    rw [Stack.perform, ← h.made]
    exact h.linked.redirect reaction
  installed := h.installed
  made := congrArg Nat.succ h.made

theorem alter (h : Follows now stack) (reaction : Reaction) :
    Follows (now.alter reaction) (stack.perform (.alter reaction)).1 where
  linked := h.linked.alter reaction
  installed := h.installed
  made := h.made

theorem dropNewest (h : Follows now stack) :
    Follows now.dropNewest { stack with live := stack.live.tail } where
  linked := h.linked.dropNewest
  installed := by
    intro stream
    rw [← h.installed stream, Redirections.dropNewest]
    split <;> rfl
  made := by
    rw [← h.made, Redirections.dropNewest]
    split <;> rfl

theorem unwind (h : Follows now stack) (count : Nat) :
    Follows (now.unwind count) { stack with live := stack.live.drop count } := by
  induction count generalizing now stack with
  | zero => exact h
  | succ count ih =>
      have hrest := ih h.dropNewest
      rw [List.drop_tail] at hrest
      exact hrest

theorem replace (h : Follows now stack) (stream : StreamId) (sink : κ) :
    Follows (now.replace stream sink).1 (stack.perform (.replace stream sink)).1 where
  linked := h.linked
  installed := by
    intro other
    change (now.routing.replace stream (.shared sink)).1.destination other =
      .shared (Function.update stack.installed stream sink other)
    by_cases hother : other = stream
    · subst hother
      rw [Routing.destination_replace_self, Function.update_self]
    · rw [Routing.destination_replace_of_ne _ hother, Function.update_of_ne hother, h.installed]
  made := h.made

/-- Whatever is asked, it is answered as the stack answers it, and the stack is followed. -/
theorem perform (h : Follows now stack) (operation : Operation κ) :
    Follows (now.perform operation).1 (stack.perform operation).1 ∧
      (now.perform operation).2 = (stack.perform operation).2 := by
  cases operation with
  | redirect stream reaction => exact ⟨h.redirect stream reaction, rfl⟩
  | alter reaction => exact ⟨h.alter reaction, rfl⟩
  | drop => exact ⟨h.dropNewest, rfl⟩
  | unwind count => exact ⟨h.unwind count, rfl⟩
  | replace stream sink =>
      exact ⟨h.replace stream sink, congrArg Reply.replaced (h.installed stream)⟩
  | write stream text => exact ⟨h, congrArg Reply.delivered (h.write_eq stream text)⟩

theorem performAll (h : Follows now stack) (operations : List (Operation κ)) :
    Follows (now.performAll operations).1 (stack.performAll operations).1 ∧
      (now.performAll operations).2 = (stack.performAll operations).2 := by
  induction operations generalizing now stack with
  | nil => exact ⟨h, rfl⟩
  | cons operation operations ih =>
      obtain ⟨hnext, hreply⟩ := h.perform operation
      obtain ⟨hlast, hreplies⟩ := ih hnext
      exact ⟨hlast, congrArg₂ List.cons hreply hreplies⟩

end Follows

/-- Nested redirections are a stack: whatever is done on a thread, in any order, each write and each
replacement is answered as the stack answers it.  The guards that are held are those of the stack,
and where none is held no redirection remains. -/
theorem performAll_eq_stack (thread : ThreadId) (sinks : StreamId → κ)
    (operations : List (Operation κ)) :
    let ended := (Redirections.start sinks : Redirections thread κ).performAll operations
    let expected := (Stack.start sinks).performAll operations
    ended.2 = expected.2 ∧ ended.1.numbers = expected.1.live.map Prod.fst ∧
      (ended.1.held = [] → ended.1.inPlace = none) := by
  intro ended expected
  have hstart : Follows (.start sinks : Redirections thread κ) (.start sinks) := .start sinks
  obtain ⟨hfollows, hreplies⟩ := hstart.performAll operations
  refine ⟨hreplies, hfollows.linked.map_fst_eq, fun hheld => ?_⟩
  exact hfollows.linked.eq_none_of_eq_nil hheld

end Cellbook.Output
