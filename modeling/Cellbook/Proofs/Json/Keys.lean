import Cellbook.Proofs.Json.Meaning

/-!
# Members by their keys

Where each field of a record goes by the values under its own key (`Value.under`), of which there is
at most one (`Value.single?`), it makes no difference where in the object the members stand, nor
which others are there.  So the order of members may be changed anywhere in a value
(`Value.Reordered`).
-/

namespace Cellbook.Json.Value

/-- The values under a key, in order. -/
def under (name : String) (members : List (Option String × Value)) : List Value :=
  (members.filter (·.1 == some name)).map Prod.snd

/-- What is read of a field from the values under its key.  There may be none and there may be one,
but no further one. -/
def single? {α : Type} (meaning : Value → Option α) : Option α → List Value → Option (Option α)
  | read, [] => some read
  | none, [value] => (meaning value).map some
  | _, _ => none

/-- Whether every key is a text. -/
def hasTextKeys (members : List (Option String × Value)) : Bool := members.all (·.1.isSome)

/-- The values are the same but that in one object, anywhere in them, the members stand in another
order. -/
inductive Reordered : Value → Value → Prop
  | order {members others : List (Option String × Value)} (h : members.Perm others) :
      Reordered (.object members) (.object others)
  | element {value other : Value} (earlier later : List Value) (h : Reordered value other) :
      Reordered (.list (earlier ++ value :: later)) (.list (earlier ++ other :: later))
  | member {value other : Value} (before after : List (Option String × Value))
      (key : Option String) (h : Reordered value other) :
      Reordered (.object (before ++ (key, value) :: after))
        (.object (before ++ (key, other) :: after))

variable {α : Type} {members others before after : List (Option String × Value)}
  {meaning : Value → Option α} {value other : Value}

/-! ## Keys -/

@[simp] theorem under_nil (name : String) : under name [] = [] := rfl

@[simp] theorem under_append (name : String) :
    under name (before ++ after) = under name before ++ under name after := by
  simp [under]

@[simp] theorem under_cons_self (name : String) (value : Value) :
    under name ((some name, value) :: members) = value :: under name members := by
  simp [under]

theorem under_cons_of_ne {name : String} {key : Option String} (h : key ≠ some name)
    (value : Value) : under name ((key, value) :: members) = under name members := by
  simp [under, h]

theorem under_eq_nil {name : String} (h : ∀ member ∈ members, member.1 ≠ some name) :
    under name members = [] := by
  simpa [under] using h

theorem under_perm (h : members.Perm others) (name : String) :
    (under name members).Perm (under name others) :=
  (h.filter _).map _

theorem hasTextKeys_perm (h : members.Perm others) : hasTextKeys members = hasTextKeys others :=
  h.all_eq

@[simp] theorem hasTextKeys_append :
    hasTextKeys (before ++ after) = (hasTextKeys before && hasTextKeys after) :=
  List.all_append

@[simp] theorem hasTextKeys_cons (key : Option String) (value : Value) :
    hasTextKeys ((key, value) :: members) = (key.isSome && hasTextKeys members) :=
  List.all_cons

/-! ## Values under a key -/

@[simp] theorem single?_nil (read : Option α) : single? meaning read [] = some read := by
  cases read <;> rfl

/-- The first value is read, if none has been, and then the others. -/
theorem single?_cons (read : Option α) (values : List Value) :
    single? meaning read (value :: values) =
      (if read.isSome then none else meaning value).bind fun a =>
        single? meaning (some a) values := by
  cases values with
  | nil => cases read <;> cases h : meaning value <;> simp [single?, h]
  | cons other values =>
      have hnone (a : α) : single? meaning (some a) (other :: values) = none := by
        cases values <;> rfl
      simp only [hnone, Option.bind_fun_none]
      cases read <;> rfl

/-- The values may be in any order, for there are no two. -/
theorem single?_perm {values others : List Value} (h : values.Perm others) (read : Option α) :
    single? meaning read values = single? meaning read others := by
  induction h generalizing read with
  | nil => rfl
  | cons value _ ih => simp only [single?_cons, ih]
  | swap value other values => cases read <;> rfl
  | trans _ _ ih₁ ih₂ => exact (ih₁ read).trans (ih₂ read)

/-- A value counts only for what it means. -/
theorem single?_congr (h : meaning value = meaning other) (read : Option α)
    (earlier later : List Value) :
    single? meaning read (earlier ++ value :: later) =
      single? meaning read (earlier ++ other :: later) := by
  induction earlier generalizing read with
  | nil => simp only [List.nil_append, single?_cons, h]
  | cons first earlier ih => simp only [List.cons_append, single?_cons, ih]

/-- Where values are read, there is no more than one. -/
theorem single?_eq_some {earlier later : List Value} {read : Option α}
    (h : single? meaning none (earlier ++ value :: later) = some read) :
    ∃ a, meaning value = some a ∧ read = some a := by
  cases earlier with
  | cons first earlier => cases earlier <;> cases h
  | nil =>
      cases later with
      | cons second later => cases h
      | nil =>
          obtain ⟨a, ha, hread⟩ := Option.map_eq_some_iff.mp h
          exact ⟨a, ha, hread.symm⟩

theorem list?_congr (h : meaning value = meaning other) (earlier later : List Value) :
    list? meaning (.list (earlier ++ value :: later)) =
      list? meaning (.list (earlier ++ other :: later)) := by
  simp only [list?, List.mapM_append, List.mapM_cons, h]

/-- An element of a list means an item, which stands in its place. -/
theorem list?_eq_some {earlier later : List Value} {items : List α}
    (h : list? meaning (.list (earlier ++ value :: later)) = some items) :
    ∃ a, meaning value = some a ∧ items[earlier.length]? = some a := by
  rw [list?] at h
  induction earlier generalizing items with
  | nil =>
      rw [List.nil_append, List.mapM_cons] at h
      obtain ⟨a, ha, h⟩ := Option.bind_eq_some_iff.mp h
      obtain ⟨more, -, h⟩ := Option.bind_eq_some_iff.mp h
      obtain rfl := Option.some.inj h
      exact ⟨a, ha, rfl⟩
  | cons first earlier ih =>
      rw [List.cons_append, List.mapM_cons] at h
      obtain ⟨b, -, h⟩ := Option.bind_eq_some_iff.mp h
      obtain ⟨more, hmore, h⟩ := Option.bind_eq_some_iff.mp h
      obtain rfl := Option.some.inj h
      exact ih hmore

/-! ## Another order -/

namespace Reordered

theorem text?_eq (h : Reordered value other) : value.text? = other.text? := by
  cases h <;> rfl

/-- A list means the same in another order, if its elements do. -/
theorem list?_eq (hmeaning : ∀ ⦃value other⦄, Reordered value other → meaning value = meaning other)
    (h : Reordered value other) : list? meaning value = list? meaning other := by
  cases h with
  | order h | member before after key h => rfl
  | element earlier later h => exact list?_congr (hmeaning h) earlier later

theorem exists_object (h : Reordered (.object members) other) :
    ∃ others, other = .object others := by
  cases h with
  | order h => exact ⟨_, rfl⟩
  | member before after key h => exact ⟨_, rfl⟩

theorem hasTextKeys_eq (h : Reordered (.object members) (.object others)) :
    hasTextKeys members = hasTextKeys others := by
  cases h with
  | order h => exact hasTextKeys_perm h
  | member before after key h => simp

/-- The same is read of a field in another order, if values mean the same. -/
theorem single?_eq
    (hmeaning : ∀ ⦃value other⦄, Reordered value other → meaning value = meaning other)
    (h : Reordered (.object members) (.object others)) (name : String) (read : Option α) :
    single? meaning read (under name members) = single? meaning read (under name others) := by
  cases h with
  | order h => exact single?_perm (under_perm h name) read
  | member before after key h =>
      by_cases hkey : key = some name
      · subst hkey
        simpa using single?_congr (hmeaning h) read (under name before) (under name after)
      · simp [under_cons_of_ne hkey]

end Reordered

end Cellbook.Json.Value
