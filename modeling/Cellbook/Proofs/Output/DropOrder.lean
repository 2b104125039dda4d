import Cellbook.Proofs.Output.Stack
import Mathlib.Data.List.Induction
import Mathlib.Data.List.Nodup

/-!
# The order in which guards are dropped

A guard that is dropped puts back what was in place when it was created, whatever has become of that
in the meantime.  What is put back is the sink of a redirection whose guard is still held, or none,
as long as guards are dropped newest first.  In any other order a guard is dropped before one that
was created over it, and as this other one is dropped in its turn, the sink of the first is put back
in place although its guard is gone.

So texts never go to a redirection whose guard was dropped, and with no guard held to none, just if
guards are dropped newest first (`alwaysClean_iff_nested`).
-/

namespace Cellbook.Output

variable {thread : ThreadId} {κ : Type}

/-! ## Changes -/

/-- What may be done to the redirections of a thread. -/
inductive Change (κ : Type) where
  | redirect (reaction : Reaction)
  /-- Drops the guard of a redirection, whether or not it is the newest. -/
  | drop (number : Nat)
  | replace (stream : StreamId) (sink : κ)

namespace Redirections

/-- The redirections after a change. -/
def after (now : Redirections thread κ) : Change κ → Redirections thread κ
  | .redirect reaction => now.redirect reaction
  | .drop number => now.drop number
  | .replace stream sink => (now.replace stream sink).1

/-- The redirections after changes, one after another. -/
def afterAll (now : Redirections thread κ) (changes : List (Change κ)) : Redirections thread κ :=
  changes.foldl after now

/-- No text goes to a redirection whose guard was dropped. -/
structure Clean (now : Redirections thread κ) : Prop where
  /-- With no guard held, a text goes to the sink installed in its stream. -/
  quiet : now.held = [] → ∀ stream text,
    now.write stream text = [(now.routing.destination stream, text)]
  /-- A text that goes to the sink of a redirection finds its guard held. -/
  live : ∀ stream text number said,
    (.own number, said) ∈ now.write stream text → number ∈ now.numbers

end Redirections

open Redirections

/-- At no time does a text go to a redirection whose guard was dropped. -/
def AlwaysClean (thread : ThreadId) (sinks : StreamId → κ) (changes : List (Change κ)) : Prop :=
  ∀ before, before <+: changes → ((start sinks : Redirections thread κ).afterAll before).Clean

/-- Every guard that is dropped is the newest that is held. -/
def Nested (thread : ThreadId) (sinks : StreamId → κ) (changes : List (Change κ)) : Prop :=
  ∀ before number, before ++ [.drop number] <+: changes →
    let now := (start sinks : Redirections thread κ).afterAll before
    number ∈ now.numbers → now.numbers.head? = some number

/-! ## Guards by number -/

namespace Redirections

variable (now : Redirections thread κ)

@[simp] theorem afterAll_append (changes more : List (Change κ)) :
    now.afterAll (changes ++ more) = (now.afterAll changes).afterAll more := List.foldl_append

@[simp] theorem afterAll_cons (change : Change κ) (changes : List (Change κ)) :
    now.afterAll (change :: changes) = (now.after change).afterAll changes := rfl

@[simp] theorem afterAll_nil : now.afterAll [] = now := rfl

theorem guard?_eq_none_iff {number : Nat} : now.guard? number = none ↔ number ∉ now.numbers := by
  rw [guard?, Option.map_eq_none_iff, List.find?_eq_none, numbers, List.mem_map]
  constructor
  · rintro h ⟨entry, hentry, rfl⟩
    exact h entry hentry (beq_self_eq_true _)
  · intro h entry hentry hnumber
    exact h ⟨entry, hentry, beq_iff_eq.mp hnumber⟩

/-- The guard of a new redirection keeps what was in place. -/
theorem guard?_redirect_self (reaction : Reaction) :
    (now.redirect reaction).guard? now.made = some ⟨thread, now.inPlace⟩ := by
  simp [guard?]

theorem guard?_redirect_of_ne (reaction : Reaction) {number : Nat} (h : number ≠ now.made) :
    (now.redirect reaction).guard? number = now.guard? number := by
  simp [guard?, Ne.symm h]

/-- Dropping a guard that is not held changes nothing. -/
theorem drop_of_notMem {number : Nat} (h : number ∉ now.numbers) : now.drop number = now := by
  rw [drop, now.guard?_eq_none_iff.mpr h]

theorem drop_of_guard? {number : Nat} {guard : Guard (Sink κ)}
    (h : now.guard? number = some guard) :
    now.drop number =
      ⟨now.routing.drop guard, now.made, now.held.filter fun entry => entry.1 != number⟩ := by
  rw [drop, h]

/-- Dropping a guard takes its number away and no other. -/
theorem numbers_drop (number : Nat) :
    (now.drop number).numbers = now.numbers.filter (· != number) := by
  rcases h : now.guard? number with _ | guard
  · have hmem := now.guard?_eq_none_iff.mp h
    rw [now.drop_of_notMem hmem, List.filter_eq_self.mpr]
    intro other hother
    rw [bne_iff_ne]
    rintro rfl
    exact hmem hother
  · rw [now.drop_of_guard? h, numbers, numbers, List.filter_map]
    rfl

/-- Dropping a guard leaves the others as they are. -/
theorem guard?_drop_of_ne {number other : Nat} (h : other ≠ number) :
    (now.drop number).guard? other = now.guard? other := by
  rcases hguard : now.guard? number with _ | guard
  · rw [now.drop_of_notMem (now.guard?_eq_none_iff.mp hguard)]
  · rw [now.drop_of_guard? hguard, guard?, List.find?_filter, guard?]
    congr 2
    funext entry
    by_cases hentry : entry.1 = other
    · simp [hentry, h]
    · simp [hentry]

theorem made_drop (number : Nat) : (now.drop number).made = now.made := by
  rw [drop]
  split <;> rfl

/-- Numbers fall from the newest guard on, and are those of redirections that were made. -/
def Numbered : Prop := (now.made :: now.numbers).Pairwise (· > ·)

variable {now}

theorem Numbered.after (h : now.Numbered) (change : Change κ) : (now.after change).Numbered := by
  cases change with
  | redirect reaction =>
      refine List.pairwise_cons.mpr ⟨?_, h⟩
      intro number hnumber
      rcases List.mem_cons.mp hnumber with rfl | hnumber
      · exact Nat.lt_succ_self _
      · exact Nat.lt_succ_of_lt (List.rel_of_pairwise_cons h hnumber)
  | drop number =>
      rw [Redirections.after, Numbered, made_drop, numbers_drop]
      exact h.sublist (List.filter_sublist.cons_cons _)
  | replace stream sink => exact h

theorem Numbered.afterAll (h : now.Numbered) (changes : List (Change κ)) :
    (now.afterAll changes).Numbered := by
  induction changes generalizing now with
  | nil => exact h
  | cons change changes ih => exact ih (h.after change)

/-- No two guards that are held have one number. -/
theorem Numbered.guard?_eq (h : now.Numbered) {number : Nat} {guard : Guard (Sink κ)}
    (hmem : (number, guard) ∈ now.held) : now.guard? number = some guard := by
  rcases hguard : now.guard? number with _ | other
  · exact absurd (List.mem_map_of_mem hmem) (now.guard?_eq_none_iff.mp hguard)
  · obtain ⟨⟨found, _⟩, hfind, rfl⟩ := Option.map_eq_some_iff.mp hguard
    have hfound := List.find?_some hfind
    have hnodup : (now.held.map Prod.fst).Nodup := h.tail.imp Nat.ne_of_gt
    have heq := List.inj_on_of_nodup_map hnodup (List.mem_of_find?_eq_some hfind) hmem
      (beq_iff_eq.mp hfound)
    rw [heq]

theorem Numbered.lt (h : now.Numbered) {number : Nat} (hnumber : number ∈ now.numbers) :
    number < now.made := List.rel_of_pairwise_cons h hnumber

/-! ## What a guard puts back -/

/-- A guard stays as it is until it is dropped. -/
theorem guard?_afterAll {number : Nat} {guard : Guard (Sink κ)}
    (hguard : now.guard? number = some guard) (hmade : number < now.made)
    {changes : List (Change κ)} (h : .drop number ∉ changes) :
    (now.afterAll changes).guard? number = some guard := by
  induction changes generalizing now with
  | nil => exact hguard
  | cons change changes ih =>
      rw [List.mem_cons, not_or] at h
      obtain ⟨hchange, hchanges⟩ := h
      rw [afterAll_cons]
      cases change with
      | redirect reaction =>
          refine ih ?_ (Nat.lt_succ_of_lt hmade) hchanges
          exact (now.guard?_redirect_of_ne reaction (Nat.ne_of_lt hmade)).trans hguard
      | drop dropped =>
          have hne : number ≠ dropped := fun heq => hchange (congrArg Change.drop heq)
          refine ih ?_ ((now.made_drop dropped).symm ▸ hmade) hchanges
          exact (now.guard?_drop_of_ne hne).trans hguard
      | replace stream sink => exact ih hguard hmade hchanges

/-- A guard that was dropped is not held again. -/
theorem notMem_afterAll {number : Nat} (hnumber : number ∉ now.numbers) (hmade : number < now.made)
    (changes : List (Change κ)) : number ∉ (now.afterAll changes).numbers := by
  induction changes generalizing now with
  | nil => exact hnumber
  | cons change changes ih =>
      rw [afterAll_cons]
      cases change with
      | redirect reaction =>
          refine ih ?_ (Nat.lt_succ_of_lt hmade)
          exact List.not_mem_cons_of_ne_of_not_mem (Nat.ne_of_lt hmade) hnumber
      | drop dropped =>
          refine ih ?_ ((now.made_drop dropped).symm ▸ hmade)
          intro hmem
          rw [after, numbers_drop] at hmem
          exact hnumber (List.mem_filter.mp hmem).1
      | replace stream sink => exact ih hnumber hmade

/-- A guard that is dropped puts back what it keeps. -/
theorem inPlace_drop {number : Nat} {previous : Option (Capture (Sink κ))}
    (h : now.guard? number = some ⟨thread, previous⟩) : (now.drop number).inPlace = previous := by
  rw [now.drop_of_guard? h]
  exact now.routing.capture_setCapture_self thread previous

/-- A guard that is dropped puts back what was in place when it was created, whatever was done in
between. -/
theorem inPlace_drop_afterAll (reaction : Reaction) {between : List (Change κ)}
    (h : .drop now.made ∉ between) :
    (((now.redirect reaction).afterAll between).drop now.made).inPlace = now.inPlace := by
  have hguard := guard?_afterAll (now.guard?_redirect_self reaction) (Nat.lt_succ_self _) h
  exact inPlace_drop hguard

end Redirections

/-! ## Newest first -/

theorem nested_concat_iff {sinks : StreamId → κ} {changes : List (Change κ)} {change : Change κ} :
    let now := (start sinks : Redirections thread κ).afterAll changes
    Nested thread sinks (changes ++ [change]) ↔ Nested thread sinks changes ∧
      ∀ number, change = .drop number → number ∈ now.numbers →
        now.numbers.head? = some number := by
  intro now
  constructor
  · intro h
    refine ⟨fun before number hbefore => h before number (hbefore.trans ⟨[change], rfl⟩), ?_⟩
    rintro number rfl
    exact h changes number (List.prefix_refl _)
  · rintro ⟨hchanges, hlast⟩ before number hbefore
    rcases List.prefix_concat_iff.mp hbefore with heq | hbefore
    · obtain ⟨rfl, hchange⟩ := List.append_inj' heq rfl
      exact hlast number (List.singleton_inj.mp hchange).symm
    · exact hchanges before number hbefore

/-- The newest guard is the one that is dropped by its number. -/
theorem Redirections.drop_newest {now : Redirections thread κ} (hnumbered : now.Numbered)
    {number : Nat} (h : now.numbers.head? = some number) : now.drop number = now.dropNewest := by
  rcases now with ⟨routing, made, held⟩
  cases held with
  | nil => exact nomatch h
  | cons entry held =>
      obtain ⟨newest, guard⟩ := entry
      cases h
      have hothers : held.filter (fun entry => entry.1 != newest) = held := by
        rw [List.filter_eq_self]
        intro entry hentry
        have hlt : newest > entry.1 :=
          List.rel_of_pairwise_cons hnumbered.tail (List.mem_map_of_mem hentry)
        exact bne_iff_ne.mpr (Nat.ne_of_lt hlt)
      have hguard : (⟨routing, made, (newest, guard) :: held⟩ : Redirections thread κ).guard?
          newest = some guard := by simp [guard?]
      rw [drop_of_guard? _ hguard, dropNewest, List.filter_cons_of_neg (by simp), hothers]

theorem Numbered.start (sinks : StreamId → κ) : (start sinks : Redirections thread κ).Numbered :=
  List.pairwise_singleton _ _

/-- While guards are dropped newest first, the redirections follow a stack. -/
theorem Nested.follows {sinks : StreamId → κ} {changes : List (Change κ)}
    (h : Nested thread sinks changes) :
    ∃ stack,
      Follows ((Redirections.start sinks : Redirections thread κ).afterAll changes) stack := by
  induction changes using List.reverseRecOn with
  | nil => exact ⟨_, Follows.start sinks⟩
  | append_singleton changes change ih =>
      obtain ⟨hchanges, hlast⟩ := nested_concat_iff.mp h
      obtain ⟨stack, hfollows⟩ := ih hchanges
      rw [afterAll_append, afterAll_cons, afterAll_nil]
      cases change with
      | redirect reaction => exact ⟨_, hfollows.redirect 0 reaction⟩
      | replace stream sink => exact ⟨_, hfollows.replace stream sink⟩
      | drop number =>
          rw [after]
          by_cases hnumber :
              number ∈ ((start sinks : Redirections thread κ).afterAll changes).numbers
          · rw [drop_newest ((Numbered.start sinks).afterAll changes) (hlast number rfl hnumber)]
            exact ⟨_, hfollows.dropNewest⟩
          · rw [drop_of_notMem _ hnumber]
            exact ⟨stack, hfollows⟩

/-- Redirections that follow a stack are clean. -/
theorem Follows.clean {now : Redirections thread κ} {stack : Stack κ} (h : Follows now stack) :
    now.Clean where
  quiet hheld stream text := Routing.write_of_none (h.linked.eq_none_of_eq_nil hheld) stream text
  live := by
    intro stream text number said hsaid
    rw [h.write_eq, Stack.write] at hsaid
    rw [numbers, h.linked.map_fst_eq]
    split at hsaid
    · simp at hsaid
    · next newest reaction live hlive =>
        rw [hlive]
        simp only [List.mem_cons, Prod.mk.injEq, Sink.own.injEq, List.mem_map, reduceCtorEq,
          false_and, and_false, exists_false, or_false] at hsaid
        rw [hsaid.1]
        exact List.mem_cons_self

/-! ## Any other order -/

/-- Over every guard but the newest another one was created, which keeps its redirection. -/
theorem Linked.exists_over {inPlace : Option (Capture (Sink κ))}
    {held : List (Nat × Guard (Sink κ))} {live : List (Nat × Reaction)}
    (h : Linked thread inPlace held live) (hnumbers : (held.map Prod.fst).Pairwise (· > ·))
    {number : Nat} (hmem : number ∈ held.map Prod.fst)
    (hnewest : (held.map Prod.fst).head? ≠ some number) :
    ∃ newer reaction, (newer, ⟨thread, some ⟨.own number, reaction⟩⟩) ∈ held ∧ newer ≠ number := by
  induction h with
  | nil => exact absurd hmem List.not_mem_nil
  | @cons previous held live hbelow newest reaction ih =>
      have hne : newest ≠ number := fun heq => hnewest (congrArg some heq)
      have hrest : number ∈ held.map Prod.fst := by
        rcases List.mem_cons.mp hmem with heq | hrest
        · exact absurd heq.symm hne
        · exact hrest
      by_cases hhead : (held.map Prod.fst).head? = some number
      · -- The newest guard was created right over the one in question.
        cases hbelow with
        | nil => exact absurd hrest List.not_mem_nil
        | cons hbelow below reaction' =>
            cases hhead
            exact ⟨newest, reaction', List.mem_cons_self, hne⟩
      · obtain ⟨newer, kept, hnewer, hother⟩ := ih hnumbers.tail hrest hhead
        exact ⟨newer, kept, List.mem_cons_of_mem _ hnewer, hother⟩

/-- Where a redirection is in place whose guard is not held, a text goes to its sink. -/
theorem Redirections.not_clean {now : Redirections thread κ} {number : Nat} {reaction : Reaction}
    (hplace : now.inPlace = some ⟨.own number, reaction⟩) (hnumber : number ∉ now.numbers) :
    ¬ now.Clean := by
  intro hclean
  refine hnumber (hclean.live 0 "" number "" ?_)
  rw [write, Routing.write_of_some hplace]
  exact List.mem_cons_self

/-- A guard that keeps a redirection whose own guard was dropped puts it back in place, unless it is
held for ever. -/
theorem Redirections.exists_not_clean {now : Redirections thread κ} {newer number : Nat}
    {reaction : Reaction} (hguard : now.guard? newer = some ⟨thread, some ⟨.own number, reaction⟩⟩)
    (hnewer : newer < now.made) (hnumber : number ∉ now.numbers) (hmade : number < now.made)
    {changes : List (Change κ)} (hended : (now.afterAll changes).held = []) :
    ∃ before, before <+: changes ∧ ¬ (now.afterAll before).Clean := by
  have hdropped : .drop newer ∈ changes := by
    by_contra hkept
    have hstays := guard?_afterAll hguard hnewer hkept
    rw [guard?, hended] at hstays
    exact nomatch hstays
  obtain ⟨between, later, rfl, hbetween⟩ := List.eq_append_cons_of_mem hdropped
  refine ⟨between ++ [.drop newer], ⟨later, by simp⟩, ?_⟩
  have hplace : (now.afterAll (between ++ [.drop newer])).inPlace =
      some ⟨.own number, reaction⟩ := by
    rw [afterAll_append]
    exact inPlace_drop (guard?_afterAll hguard hnewer hbetween)
  exact not_clean hplace (notMem_afterAll hnumber hmade _)

/-- Where no text ever goes to a redirection whose guard was dropped, and no guard is held in the
end, guards are dropped newest first. -/
theorem AlwaysClean.nested {sinks : StreamId → κ} {changes : List (Change κ)}
    (h : AlwaysClean thread sinks changes)
    (hended : ((Redirections.start sinks : Redirections thread κ).afterAll changes).held = []) :
    Nested thread sinks changes := by
  suffices hprefix : ∀ before, before <+: changes → Nested thread sinks before from
    hprefix changes (List.prefix_refl _)
  intro before
  induction before using List.reverseRecOn with
  | nil =>
      intro _ before number hbefore
      have hnil := List.prefix_nil.mp hbefore
      exact absurd hnil (List.append_ne_nil_of_right_ne_nil before (List.cons_ne_nil _ _))
  | append_singleton before change ih =>
      intro hbefore
      have hnested := ih ((List.prefix_append before [change]).trans hbefore)
      refine nested_concat_iff.mpr ⟨hnested, ?_⟩
      rintro number rfl hnumber
      by_contra hnewest
      -- The first guard that is not dropped in its turn: the one over it keeps its redirection.
      obtain ⟨stack, hfollows⟩ := hnested.follows
      have hnumbered : ((Redirections.start sinks : Redirections thread κ).afterAll
          before).Numbered := (Numbered.start sinks).afterAll before
      obtain ⟨newer, reaction, hnewer, hne⟩ :=
        hfollows.linked.exists_over hnumbered.tail hnumber hnewest
      generalize hnow :
        (Redirections.start sinks : Redirections thread κ).afterAll before = now at *
      obtain ⟨rest, rfl⟩ := hbefore
      rw [List.append_assoc, afterAll_append, hnow, List.singleton_append, afterAll_cons] at hended
      obtain ⟨more, ⟨later, rfl⟩, hstale⟩ := exists_not_clean
        ((now.guard?_drop_of_ne hne).trans (hnumbered.guard?_eq hnewer))
        ((now.made_drop number).symm ▸ hnumbered.lt (List.mem_map_of_mem hnewer))
        (by rw [numbers_drop]; simp)
        ((now.made_drop number).symm ▸ hnumbered.lt hnumber) hended
      refine hstale ?_
      have hclean := h (before ++ [.drop number] ++ more) ⟨later, by simp⟩
      rwa [afterAll_append, afterAll_append, hnow] at hclean

/-! ## Drop orders -/

/-- A guard that is dropped, in whatever order, puts back what was in place when it was created.  As
long as guards are dropped newest first, a text never goes to a redirection whose guard was dropped,
and with no guard held it goes to the sink installed in its stream; in any other order in which all
guards are dropped, some text would not. -/
theorem alwaysClean_iff_nested (thread : ThreadId) (sinks : StreamId → κ)
    (changes : List (Change κ)) :
    let first : Redirections thread κ := .start sinks
    (∀ reaction between, let now := first.afterAll changes
        .drop now.made ∉ between →
          (now.afterAll (.redirect reaction :: between ++ [.drop now.made])).inPlace =
            now.inPlace) ∧
      (Nested thread sinks changes → AlwaysClean thread sinks changes) ∧
      ((first.afterAll changes).held = [] →
        (AlwaysClean thread sinks changes ↔ Nested thread sinks changes)) := by
  intro first
  have hclean : Nested thread sinks changes → AlwaysClean thread sinks changes := by
    intro hnested before hbefore
    have hprefix : Nested thread sinks before :=
      fun early number hearly => hnested early number (hearly.trans hbefore)
    obtain ⟨stack, hfollows⟩ := hprefix.follows
    exact hfollows.clean
  refine ⟨?_, hclean, fun hended => ⟨fun h => h.nested hended, hclean⟩⟩
  intro reaction between now hbetween
  rw [List.cons_append, afterAll_cons, afterAll_append]
  exact inPlace_drop_afterAll reaction hbetween

/-- Two redirections whose guards are dropped oldest first: with no guard held any more, texts go to
the sink of the first. -/
theorem not_alwaysClean_oldest_first :
    let changes : List (Change String) :=
      [.redirect fun _ => [], .redirect fun _ => [], .drop 0, .drop 1]
    let ended : Redirections 0 String := (Redirections.start fun _ => "default").afterAll changes
    ended.held = [] ∧ ended.write 0 "2" = [(.own 0, "2")] ∧
      ¬ AlwaysClean 0 (fun _ => "default") changes := by
  intro changes ended
  have hwrite : ended.write 0 "2" = [(.own 0, "2")] := rfl
  refine ⟨rfl, hwrite, fun hclean => ?_⟩
  have hquiet := (hclean changes (List.prefix_refl _)).quiet rfl 0 "2"
  exact nomatch hwrite.symm.trans hquiet

end Cellbook.Output
