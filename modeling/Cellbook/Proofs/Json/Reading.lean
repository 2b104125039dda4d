import Cellbook.Json.Decode
import Cellbook.Proofs.Json.Cursor
import Cellbook.Proofs.Json.Value

/-!
# What a reading comes to

`Reads reader octets result` says what a reader makes of the octets ahead, wherever they stand: the
value it answers and the octets it leaves, or nothing where it refuses the text.  It leaves the
places of faults out, so a text that is laid out otherwise, or refused elsewhere, comes to the same.

The relation goes through sequencing from the front (`Reads.bind`): what follows is read from what
is left.  A whole text is decoded to what its reading comes to (`toOption_decode`).
-/

namespace Cellbook.Json

variable {α β : Type}

/-- What a reading comes to: the value and the octets left, or nothing where it fails. -/
def outcome : EStateM.Result Fault Cursor α → Option (α × Bytes)
  | .ok a cursor => some (a, cursor.rest)
  | .error _ _ => none

/-- The reader comes to this result on the octets ahead, wherever they stand. -/
def Reads (reader : Reader α) (octets : Bytes) (result : Option (α × Bytes)) : Prop :=
  ∀ place, outcome (reader ⟨place, octets⟩) = result

theorem outcome_eq_some_iff {result : EStateM.Result Fault Cursor α} {a : α} {rest : Bytes} :
    outcome result = some (a, rest) ↔ ∃ place, result = .ok a ⟨place, rest⟩ := by
  cases result with
  | ok b cursor =>
      constructor
      · rintro ⟨⟩
        exact ⟨cursor.place, rfl⟩
      · rintro ⟨place, ⟨⟩⟩
        rfl
  | error fault cursor =>
      constructor
      · rintro ⟨⟩
      · rintro ⟨place, ⟨⟩⟩

theorem outcome_eq_none_iff {result : EStateM.Result Fault Cursor α} :
    outcome result = none ↔ ∃ fault cursor, result = .error fault cursor := by
  cases result with
  | ok a cursor =>
      constructor
      · rintro ⟨⟩
      · rintro ⟨fault, cursor, ⟨⟩⟩
  | error fault cursor => exact ⟨fun _ => ⟨fault, cursor, rfl⟩, fun _ => rfl⟩

/-! ## Sequencing -/

section Sequencing

variable {reader : Reader α} {next : α → Reader β} {octets rest : Bytes} {a : α}

theorem reads_pure (a : α) (octets : Bytes) : Reads (pure a) octets (some (a, octets)) :=
  fun _ => rfl

theorem reads_failAhead (cause : Cause) (octets : Bytes) :
    Reads (failAhead cause : Reader α) octets none := fun _ => rfl

theorem reads_refuse (cause : Cause) (octets : Bytes) :
    Reads (refuse cause : Reader α) octets none := fun _ => rfl

theorem reads_advance (b : UInt8) (rest : Bytes) : Reads advance (b :: rest) (some ((), rest)) :=
  fun _ => rfl

theorem reads_peek? (octets : Bytes) : Reads peek? octets (some (octets.head?, octets)) :=
  fun _ => rfl

theorem reads_next? (octets : Bytes) : Reads next? octets (some (octets.head?, octets.tail)) :=
  fun _ => rfl

theorem Reads.bind {result : Option (β × Bytes)} (h : Reads reader octets (some (a, rest)))
    (hnext : Reads (next a) rest result) : Reads (reader >>= next) octets result := by
  intro place
  obtain ⟨after, hread⟩ := outcome_eq_some_iff.mp (h place)
  change outcome (EStateM.bind reader next _) = _
  rw [EStateM.bind, hread]
  exact hnext after

/-- What is refused at first is refused. -/
theorem Reads.bind_none (h : Reads reader octets none) (next : α → Reader β) :
    Reads (reader >>= next) octets none := by
  intro place
  obtain ⟨fault, cursor, hread⟩ := outcome_eq_none_iff.mp (h place)
  change outcome (EStateM.bind reader next _) = _
  rw [EStateM.bind, hread]
  rfl

/-- What is refused in the end is refused, whatever was read before. -/
theorem reads_bind_of_none (reader : Reader α) (h : ∀ a rest, Reads (next a) rest none)
    (octets : Bytes) : Reads (reader >>= next) octets none := by
  intro place
  change outcome (EStateM.bind reader next _) = _
  rw [EStateM.bind]
  cases reader ⟨place, octets⟩ with
  | ok a cursor => exact h a cursor.rest cursor.place
  | error fault cursor => rfl

/-- What is made of a value after it has been read takes no further octets. -/
theorem Reads.bind_option {value : Option α} {rest : Bytes} {f : α → Option β}
    (h : Reads reader octets (value.map (·, rest)))
    (hnext : ∀ a rest, Reads (next a) rest ((f a).map (·, rest))) :
    Reads (reader >>= next) octets ((value.bind f).map (·, rest)) := by
  cases value with
  | none => exact h.bind_none next
  | some a => exact h.bind (hnext a rest)

theorem Reads.map {result : Option (α × Bytes)} (h : Reads reader octets result) (f : α → β) :
    Reads (f <$> reader) octets (result.map fun read => (f read.1, read.2)) := by
  intro place
  change outcome (EStateM.map f reader _) = _
  have hread := h place
  rw [EStateM.map]
  cases hresult : reader ⟨place, octets⟩ with
  | ok a cursor =>
      rw [hresult] at hread
      rw [← hread]
      rfl
  | error fault cursor =>
      rw [hresult] at hread
      rw [← hread]
      rfl

/-- A reader that is given what lies ahead. -/
theorem reads_ahead (reader : Bytes → Reader α) {result : Option (α × Bytes)}
    (h : Reads (reader octets) octets result) :
    Reads (get >>= fun cursor => reader cursor.rest) octets result := fun place => h place

theorem Reads.placed {result : Option (α × Bytes)} (h : Reads reader octets result) :
    Reads (Json.placed reader) octets result := by
  intro place
  rw [← h place, Json.placed]
  cases reader ⟨place, octets⟩ <;> rfl

theorem Reads.endedBy_none (h : Reads reader octets none) (ending : Reader Unit) :
    Reads (Json.endedBy reader ending) octets none := by
  intro place
  obtain ⟨fault, cursor, hread⟩ := outcome_eq_none_iff.mp (h place)
  rw [Json.endedBy, hread]
  dsimp only
  split <;> rfl

/-- After what is read it is for the ending to say what is left. -/
theorem Reads.endedBy_some {ending : Reader Unit} {result : Option (Unit × Bytes)}
    (h : Reads reader octets (some (a, rest))) (hend : Reads ending rest result) :
    Reads (Json.endedBy reader ending) octets (result.map fun read => (a, read.2)) := by
  intro place
  obtain ⟨after, hread⟩ := outcome_eq_some_iff.mp (h place)
  rw [Json.endedBy, hread]
  exact hend.map (fun _ => a) after

/-- What is read is ended by what it is to end with. -/
theorem Reads.endedBy {ending : Reader Unit} {value : Option α} {more : Bytes}
    (h : Reads reader octets (value.map (·, rest))) (hend : Reads ending rest (some ((), more))) :
    Reads (Json.endedBy reader ending) octets (value.map (·, more)) := by
  cases value with
  | none => exact h.endedBy_none ending
  | some a => exact h.endedBy_some hend

/-- What does not end as it is to is refused. -/
theorem Reads.endedBy_of_ending {ending : Reader Unit} {value : Option α}
    (h : Reads reader octets (value.map (·, rest))) (hend : Reads ending rest none) :
    Reads (Json.endedBy reader ending) octets none := by
  cases value with
  | none => exact h.endedBy_none ending
  | some a => exact h.endedBy_some hend

/-- What is read in two steps is ended after the second. -/
theorem Reads.endedBy_bind {ending : Reader Unit} {result : Option (β × Bytes)}
    (h : Reads reader octets (some (a, rest)))
    (hnext : Reads (Json.endedBy (next a) ending) rest result) :
    Reads (Json.endedBy (reader >>= next) ending) octets result := by
  intro place
  obtain ⟨after, hread⟩ := outcome_eq_some_iff.mp (h place)
  have hstep : (reader >>= next) ⟨place, octets⟩ = next a ⟨after, rest⟩ := by
    change EStateM.bind reader next _ = _
    rw [EStateM.bind, hread]
  rw [Json.endedBy, hstep]
  exact hnext after

end Sequencing

/-! ## Tokens -/

section Tokens

variable {next : Option UInt8 → Reader α} {blanks rest : Bytes} {b : UInt8}
  {result : Option (α × Bytes)}

theorem takeOnto_cons {kind : UInt8 → Bool} (h : kind b = true) (taken : Bytes) (place : Place)
    (rest : Bytes) :
    takeOnto kind taken place (b :: rest) = takeOnto kind (b :: taken) (place.after b) rest := by
  rw [takeOnto, if_pos h]

/-- Octets of a kind are taken as long as they last. -/
theorem takeOnto_append {kind : UInt8 → Bool} {octets : Bytes} (h : ∀ b ∈ octets, kind b = true)
    (taken rest : Bytes) (place : Place) :
    takeOnto kind taken place (octets ++ rest) =
      takeOnto kind (octets.reverse ++ taken) (place.past octets) rest := by
  induction octets generalizing taken place with
  | nil => rfl
  | cons b octets ih =>
      have hb : kind b = true := h b List.mem_cons_self
      rw [List.cons_append, takeOnto_cons hb, ih fun c hc => h c (List.mem_cons_of_mem _ hc)]
      simp

/-- Octets of a kind are taken up to one that is not, or to the end. -/
theorem reads_takeWhile {kind : UInt8 → Bool} {octets : Bytes} (h : ∀ b ∈ octets, kind b = true)
    (hrest : ∀ b ∈ rest.head?, kind b = false) :
    Reads (takeWhile kind) (octets ++ rest) (some (octets, rest)) := by
  intro place
  rw [takeWhile]
  dsimp only
  rw [takeOnto_append h]
  cases rest with
  | nil => simp [takeOnto, outcome]
  | cons b rest => simp [takeOnto, outcome, hrest b rfl]

theorem reads_peekToken? (hblanks : IsBlanks blanks) (hb : isBlank b = false) (rest : Bytes) :
    Reads peekToken? (blanks ++ b :: rest) (some (some b, b :: rest)) := by
  have hstop : ∀ c ∈ (b :: rest).head?, isBlank c = false := by
    rintro c ⟨⟩
    exact hb
  exact (reads_takeWhile hblanks hstop).bind (reads_peek? _)

/-- A reader that passes white space and looks at the octet after it. -/
theorem reads_token (hblanks : IsBlanks blanks) (hb : isBlank b = false)
    (h : Reads (next (some b)) (b :: rest) result) :
    Reads (peekToken? >>= next) (blanks ++ b :: rest) result :=
  (reads_peekToken? hblanks hb rest).bind h

/-- A word is taken letter by letter. -/
theorem reads_expectWord (word : List Char) (rest : Bytes) :
    Reads (expectWord word) (word.map Char.toUInt8 ++ rest) (some ((), rest)) := by
  induction word with
  | nil => exact reads_pure () rest
  | cons c word ih =>
      refine (reads_next? _).bind ?_
      simpa using ih

/-- A reader that passes white space up to the end. -/
theorem reads_noToken (hblanks : IsBlanks blanks) (h : Reads (next none) [] result) :
    Reads (peekToken? >>= next) blanks result := by
  have hread : Reads peekToken? (blanks ++ []) (some (none, [])) := by
    refine (reads_takeWhile hblanks ?_).bind (reads_peek? _)
    rintro c ⟨⟩
  rw [List.append_nil] at hread
  exact hread.bind h

end Tokens

/-! ## Whole texts -/

/-- A text that is read with nothing but white space left is decoded, and one that is refused is
not. -/
theorem toOption_decode {reader : Reader α} {octets blanks : Bytes} {value : Option α}
    (hblanks : IsBlanks blanks) (h : Reads reader octets (value.map (·, blanks))) :
    (decode reader octets).toOption = value := by
  have hcomplete : outcome (complete reader (.start octets)) = value.map (·, []) := by
    cases value with
    | none => exact h.bind_none _ _
    | some a => exact h.bind (reads_noToken hblanks (reads_pure a [])) _
  rw [decode]
  cases value with
  | none =>
      obtain ⟨fault, cursor, hread⟩ := outcome_eq_none_iff.mp hcomplete
      rw [hread]
      rfl
  | some a =>
      obtain ⟨place, hread⟩ := outcome_eq_some_iff.mp hcomplete
      rw [hread]
      rfl

end Cellbook.Json
