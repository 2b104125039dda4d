import Cellbook.Proofs.Json.Passing

/-!
# What values mean to readers

A reader of texts, of lists or of records understands values: what it answers depends on the value
alone, and not on which of its texts is read (`Understands`).  The meaning is a function on values,
with nothing where the reader refuses them, so it says both what is read and what is not:

* `Value.text?`, `Value.boolean?` and `Value.count?`, what a string, a truth value and a number of
  64 bits mean;
* `Value.list?`, what a list means, from what its elements do;
* `Record.meaning?`, what an object or a list means as a record, from what values mean under the
  names of its fields.

A whole text is decoded to what its value means (`Understands.toOption_decode`).
-/

namespace Cellbook.Json

variable {α β σ : Type}

/-- The reader makes of each form of a value what the value means, wherever a number may end, and
leaves what follows it.  It refuses a value that means nothing. -/
def Understands (reader : Reader α) (meaning : Value → Option α) : Prop :=
  ∀ ⦃value : Value⦄ ⦃octets blanks rest : Bytes⦄, value.Form octets → IsBlanks blanks →
    Stops rest → Reads reader (blanks ++ (octets ++ rest)) ((meaning value).map (·, rest))

/-- A text is decoded to what its value means. -/
theorem Understands.toOption_decode {reader : Reader α} {meaning : Value → Option α}
    (h : Understands reader meaning) {value : Value} {octets : Bytes} (htext : value.Text octets) :
    (decode reader octets).toOption = meaning value := by
  obtain ⟨before, inner, after, hbefore, hinner, hafter, rfl⟩ := htext
  have hstops : Stops after := by simpa using hafter.stops stops_nil
  exact Json.toOption_decode hafter (h hinner hbefore hstops)

/-- What a text is decoded to is what its value means. -/
theorem Understands.decode_eq_ok_iff {reader : Reader α} {meaning : Value → Option α}
    (h : Understands reader meaning) {value : Value} {octets : Bytes} (htext : value.Text octets)
    {a : α} : decode reader octets = .ok a ↔ meaning value = some a := by
  rw [← h.toOption_decode htext]
  cases decode reader octets <;> simp [Except.toOption]

/-- What is made of a value once it is read. -/
theorem Understands.bind {reader : Reader α} {meaning : Value → Option α}
    (h : Understands reader meaning) {next : α → Reader β} {f : α → Option β}
    (hnext : ∀ a rest, Reads (next a) rest ((f a).map (·, rest))) :
    Understands (reader >>= next) fun value => (meaning value).bind f := by
  intro value octets blanks rest hform hblanks hrest
  exact (h hform hblanks hrest).bind_option hnext

theorem Understands.map {reader : Reader α} {meaning : Value → Option α}
    (h : Understands reader meaning) (f : α → β) :
    Understands (reader >>= fun a => pure (f a)) fun value => (meaning value).map f := by
  have hpure : ∀ a rest, Reads (pure (f a)) rest ((some (f a)).map (·, rest)) := fun a rest =>
    reads_pure (f a) rest
  simpa [Option.map_eq_bind, Function.comp_def] using h.bind hpure

/-! ## Values passed over -/

theorem understands_skipValue : Understands skipValue fun _ => some () :=
  fun _ _ _ _ hform hblanks hrest => hform.reads_skipValue hblanks hrest

/-- A text that is one value and nothing else. -/
def IsValue (octets : Bytes) : Prop := decode skipValue octets = .ok ()

/-- A text of any value is one value. -/
theorem Value.Text.isValue {value : Value} {octets : Bytes} (h : value.Text octets) :
    IsValue octets :=
  (understands_skipValue.decode_eq_ok_iff h).mpr rfl

/-! ## First octets -/

theorem reads_mismatch (expected : String) (octets : Bytes) :
    Reads (mismatch expected : Reader α) octets none :=
  (reads_bind_of_none found (fun _ => reads_refuse _) octets).placed

/-- A reader that goes by the first octet of a value. -/
theorem understands_byFirst {reader : UInt8 → Reader α} {meaning : Value → Option α}
    (h : ∀ ⦃value : Value⦄ ⦃b : UInt8⦄ ⦃more rest : Bytes⦄, value.Form (b :: more) →
      value.Begins b → Stops rest →
        Reads (reader b) (b :: more ++ rest) ((meaning value).map (·, rest))) :
    Understands (byFirst reader) meaning := by
  intro value octets blanks rest hform hblanks hrest
  obtain ⟨b, more, rfl, hb⟩ := hform.begins
  exact reads_token hblanks hb.separate.1 (h hform hb hrest)

/-! ## Texts, truth values and counts -/

/-- The text that a value is. -/
def Value.text? : Value → Option String
  | .string content => content
  | _ => none

theorem understands_text : Understands text Value.text? := by
  refine understands_byFirst fun value b more rest hform hb hrest => ?_
  by_cases hquote : b = '"'.toUInt8
  · subst hquote
    obtain ⟨content, rfl⟩ := Value.eq_string_of_begins hb
    obtain ⟨points, parts, hparts, rfl, hoctets⟩ := hform
    rw [hoctets, List.cons_append, List.append_assoc]
    exact (reads_advance _ _).bind (reads_stringContent hparts rest)
  · have hnone : value.text? = none := by
      cases value with
      | string content => exact absurd hb hquote
      | _ => rfl
    rw [hnone]
    simp only [beq_iff_eq, hquote, if_false]
    exact reads_mismatch _ _

/-- A string that is all there is to a JSON text is read as that string. -/
theorem decode_quote (content : String) :
    decode text (Text.encode (quote content)) = .ok content :=
  (understands_text.decode_eq_ok_iff (.of_form (form_quote content))).mpr rfl

/-- The truth value that a value is. -/
def Value.boolean? : Value → Option Bool
  | .boolean value => some value
  | _ => none

theorem understands_boolean : Understands boolean Value.boolean? := by
  refine understands_byFirst fun value b more rest hform hb hrest => ?_
  by_cases hword : b = 't'.toUInt8 ∨ b = 'f'.toUInt8
  · obtain ⟨value, rfl⟩ := Value.eq_boolean_of_begins hb hword
    cases value with
    | true =>
        obtain ⟨rfl, rfl⟩ : b = 't'.toUInt8 ∧ more = ['r', 'u', 'e'].map Char.toUInt8 :=
          List.cons.inj hform
        exact (reads_expectWord ['t', 'r', 'u', 'e'] rest).bind (reads_pure true rest)
    | false =>
        obtain ⟨rfl, rfl⟩ : b = 'f'.toUInt8 ∧ more = ['a', 'l', 's', 'e'].map Char.toUInt8 :=
          List.cons.inj hform
        exact (reads_expectWord ['f', 'a', 'l', 's', 'e'] rest).bind (reads_pure false rest)
  · have hnone : value.boolean? = none := by
      cases value with
      | boolean value => exact absurd hb hword
      | _ => rfl
    obtain ⟨htrue, hfalse⟩ := not_or.mp hword
    rw [hnone]
    simp only [beq_iff_eq, htrue, hfalse, if_false]
    exact reads_mismatch _ _

/-- The count that a number is. -/
def Number.count? : Number → Option Nat
  | .natural value => some value
  | _ => none

/-- The count of 64 bits that a value is. -/
def Value.count? : Value → Option Nat
  | .number numeral => numeral.value.toOption.bind Number.count?
  | _ => none

theorem reads_countOf (number : Number) (rest : Bytes) :
    Reads (placed (countOf number)) rest (number.count?.map (·, rest)) := by
  cases number with
  | natural value => exact (reads_pure _ _).placed
  | negative size => exact (reads_refuse _ _).placed
  | real value => exact (reads_refuse _ _).placed

theorem understands_count : Understands count Value.count? := by
  refine understands_byFirst fun value b more rest hform hb hrest => ?_
  by_cases hnumber : b = '-'.toUInt8 ∨ isDigit b = true
  · obtain ⟨numeral, rfl⟩ := Value.eq_number_of_begins hb hnumber
    obtain ⟨first, digits, hfirst, hoctets, hread⟩ := Numeral.Form.reads_number hform hrest
    have hcount := hread.bind_option reads_countOf
    cases hsign : numeral.negative with
    | true =>
        rw [hsign] at hoctets hcount
        obtain ⟨rfl, rfl⟩ := List.cons.inj hoctets
        exact (reads_advance _ _).bind hcount
    | false =>
        rw [hsign] at hoctets hcount
        obtain ⟨rfl, rfl⟩ := List.cons.inj hoctets
        simp only [beq_iff_eq, ne_minus_of_isDigit hfirst, if_false, hfirst, if_true]
        exact hcount
  · have hnone : value.count? = none := by
      cases value with
      | number numeral => exact absurd hb hnumber
      | _ => rfl
    obtain ⟨hminus, hdigit⟩ := not_or.mp hnumber
    rw [hnone]
    simp only [beq_iff_eq, hminus, hdigit, if_false]
    exact reads_mismatch _ _

/-! ## Lists -/

/-- Parts from the first or from a later one on, with what separates them. -/
def joined (first : Bool) (parts : List Bytes) : Bytes :=
  if first then [','.toUInt8].intercalate parts else laterParts parts

theorem joined_nil (first : Bool) : joined first [] = [] := by
  cases first <;> rfl

theorem joined_cons (first : Bool) (part : Bytes) (parts : List Bytes) :
    joined first (part :: parts) =
      (if first then [] else [','.toUInt8]) ++ (part ++ laterParts parts) := by
  cases first with
  | false => simp [joined, laterParts]
  | true => simp [joined, intercalate_cons]

@[simp] theorem joined_false (parts : List Bytes) : joined false parts = laterParts parts := rfl

/-- There are fewer parts than octets ahead. -/
theorem length_lt_joined (first : Bool) {parts : List Bytes} (h : ∀ part ∈ parts, part ≠ [])
    (blanks : Bytes) (close : UInt8) (rest : Bytes) :
    parts.length < (blanks ++ (joined first parts ++ close :: rest)).length := by
  cases parts with
  | nil =>
      simp only [List.length_nil, List.length_append, List.length_cons]
      omega
  | cons part parts =>
      have hpart := List.length_pos_iff.mpr (h part List.mem_cons_self)
      have hlater := length_le_laterParts parts
      simp only [joined_cons, List.length_append, List.length_cons]
      omega

/-- What the elements of a list mean. -/
def Value.list? (meaning : Value → Option α) : Value → Option (List α)
  | .list elements => elements.mapM meaning
  | _ => none

/-- A list of values that mean items means the items. -/
theorem Value.list?_map {meaning : Value → Option α} {items : List α} {f : α → Value}
    (h : ∀ a ∈ items, meaning (f a) = some a) :
    (Value.list (items.map f)).list? meaning = some items := by
  rw [list?]
  induction items with
  | nil => rfl
  | cons a items ih =>
      have hitems := ih fun b hb => h b (List.mem_cons_of_mem a hb)
      simp [h a List.mem_cons_self, hitems]

/-- The octets of values in a list, each with white space around it. -/
abbrev Elements (values : List Value) (parts : List Bytes) : Prop :=
  List.Forall₂ (fun value part => Padded value.Form part) values parts

theorem Elements.ne_nil {values : List Value} {parts : List Bytes} (h : Elements values parts) :
    ∀ part ∈ parts, part ≠ [] := by
  intro part hpart
  obtain ⟨value, -, before, inner, after, -, hinner, -, rfl⟩ := exists_of_forall₂_right h hpart
  obtain ⟨b, more, rfl, -⟩ := hinner.begins
  simp

/-! ### Lists and objects by their first octets -/

/-- What begins with a bracket is a list, with its elements up to the bracket that closes it. -/
theorem Value.Form.exists_elements {value : Value} {more : Bytes}
    (h : value.Form ('['.toUInt8 :: more)) :
    ∃ elements inside parts, value = .list elements ∧ IsBlanks inside ∧ Elements elements parts ∧
      more = inside ++ (joined true parts ++ [']'.toUInt8]) := by
  obtain ⟨b, others, heq, hb⟩ := h.begins
  obtain rfl := (List.cons.inj heq).1
  obtain ⟨elements, rfl⟩ := eq_list_of_begins hb
  obtain ⟨inside, parts, hinside, hparts, hoctets⟩ := h
  rw [elementForms_eq, List.forall₂_map_left_iff] at hparts
  exact ⟨elements, inside, parts, rfl, hinside, hparts, (List.cons.inj hoctets).2⟩

/-- What begins with a brace is an object, with its members up to the brace that closes it. -/
theorem Value.Form.exists_members {value : Value} {more : Bytes} (h : value.Form (0x7b :: more)) :
    ∃ members inside parts, value = .object members ∧ IsBlanks inside ∧
      List.Forall₂ (fun member part => Keyed (IsStringOf member.1) member.2.Form part)
        members parts ∧
      more = inside ++ (joined true parts ++ [0x7d]) := by
  obtain ⟨b, others, heq, hb⟩ := h.begins
  obtain rfl := (List.cons.inj heq).1
  obtain ⟨members, rfl⟩ := eq_object_of_begins hb
  obtain ⟨inside, parts, hinside, hparts, hoctets⟩ := h
  rw [memberForms_eq, List.forall₂_map_left_iff] at hparts
  exact ⟨members, inside, parts, rfl, hinside, hparts, (List.cons.inj hoctets).2⟩

/-! ### Elements -/

section Lists

variable {element : Reader α} {meaning : Value → Option α} {value : Value}
  {octets blanks inside rest : Bytes}

theorem reads_nextElement?_end (element : Reader α) (first : Bool) (hblanks : IsBlanks blanks)
    (rest : Bytes) :
    Reads (nextElement? first element) (blanks ++ ']'.toUInt8 :: rest)
      (some (none, ']'.toUInt8 :: rest)) :=
  reads_token hblanks rfl (reads_pure _ _)

/-- The next element is read, and what follows it is left. -/
theorem Understands.reads_nextElement? (h : Understands element meaning) (first : Bool)
    {part : Bytes} (hpart : Padded value.Form part) (parts : List Bytes) (hblanks : IsBlanks blanks)
    (rest : Bytes) : ∃ after, IsBlanks after ∧
      Reads (nextElement? first element)
        (blanks ++ (joined first (part :: parts) ++ ']'.toUInt8 :: rest))
        ((meaning value).map fun a =>
          (some a, after ++ (laterParts parts ++ ']'.toUInt8 :: rest))) := by
  obtain ⟨before, inner, after, hbefore, hinner, hafter, rfl⟩ := hpart
  have hstops := hafter.stops (stops_laterParts parts (.inr (.inl rfl)) rest)
  have hread := (h hinner isBlanks_nil hstops).map some
  obtain ⟨b, more, rfl, hb⟩ := hinner.begins
  obtain ⟨hblank, -, hclose, -⟩ := hb.separate
  refine ⟨after, hafter, ?_⟩
  rw [joined_cons]
  cases first with
  | true =>
      have hoctets : blanks ++ ([] ++ ((before ++ (b :: more ++ after)) ++ laterParts parts) ++
          ']'.toUInt8 :: rest) = blanks ++ before ++ b :: (more ++ (after ++ (laterParts parts ++
            ']'.toUInt8 :: rest))) := by simp
      rw [if_pos rfl, hoctets]
      refine reads_token (hblanks.append hbefore) hblank ?_
      simp only [beq_iff_eq, hclose, if_false, if_true]
      simpa [Function.comp_def] using hread
  | false =>
      have hoctets : blanks ++ ([','.toUInt8] ++ ((before ++ (b :: more ++ after)) ++
          laterParts parts) ++ ']'.toUInt8 :: rest) = blanks ++ ','.toUInt8 :: (before ++
            b :: (more ++ (after ++ (laterParts parts ++ ']'.toUInt8 :: rest)))) := by simp
      rw [if_neg Bool.false_ne_true, hoctets]
      refine reads_token hblanks rfl ((reads_advance _ _).bind (reads_token hbefore hblank ?_))
      simp only [beq_iff_eq, hclose, if_false]
      simpa [Function.comp_def] using hread

theorem reads_endList (hblanks : IsBlanks blanks) (rest : Bytes) :
    Reads endList (blanks ++ ']'.toUInt8 :: rest) (some ((), rest)) :=
  reads_token hblanks rfl (reads_advance _ _)

/-- A list does not end where an element follows. -/
theorem reads_endList_none (first : Bool) {part : Bytes} (hpart : Padded value.Form part)
    (parts : List Bytes) (hblanks : IsBlanks blanks) (rest : Bytes) :
    Reads endList (blanks ++ (joined first (part :: parts) ++ rest)) none := by
  rw [joined_cons]
  cases first with
  | true =>
      obtain ⟨before, inner, after, hbefore, hinner, -, rfl⟩ := hpart
      obtain ⟨b, more, rfl, hb⟩ := hinner.begins
      obtain ⟨hblank, hcomma, hclose, -⟩ := hb.separate
      have hoctets : blanks ++ ([] ++ ((before ++ (b :: more ++ after)) ++ laterParts parts) ++
          rest) = blanks ++ before ++ b :: (more ++ (after ++ (laterParts parts ++ rest))) := by
        simp
      rw [if_pos rfl, hoctets]
      refine reads_token (hblanks.append hbefore) hblank ?_
      simp only [beq_iff_eq, hclose, hcomma, if_false]
      exact reads_failAhead _ _
  | false =>
      refine reads_token hblanks rfl ((reads_advance _ _).bind ?_)
      refine reads_bind_of_none peekToken? (fun next more => ?_) _
      split
      · exact reads_failAhead _ _
      · exact reads_failAhead _ _

/-- The elements that are ahead are read onto those before them, up to the bracket.  The induction
is on the elements; each takes up one more octet of fuel. -/
theorem Understands.reads_elementsOnto (h : Understands element meaning) {values : List Value}
    {parts : List Bytes} (hparts : Elements values parts) {fuel : Bytes} (read : List α)
    (hfuel : parts.length < fuel.length) (hblanks : IsBlanks blanks) (rest : Bytes) :
    Reads (elementsOnto element fuel read)
      (blanks ++ (joined read.isEmpty parts ++ ']'.toUInt8 :: rest))
      ((values.mapM meaning).map fun more => (read.reverse ++ more, ']'.toUInt8 :: rest)) := by
  induction hparts generalizing fuel read blanks with
  | nil =>
      cases fuel with
      | nil => cases hfuel
      | cons c fuel =>
          have hvalues : ([].mapM meaning).map (fun more => (read.reverse ++ more,
              ']'.toUInt8 :: rest)) = some (read.reverse, ']'.toUInt8 :: rest) := by simp
          rw [hvalues, joined_nil]
          exact (reads_nextElement?_end element read.isEmpty hblanks rest).bind (reads_pure _ _)
  | @cons value part values parts hpart hparts ih =>
      cases fuel with
      | nil => cases hfuel
      | cons c fuel =>
          obtain ⟨after, hafter, hnext⟩ :=
            h.reads_nextElement? read.isEmpty hpart parts hblanks rest
          rw [elementsOnto, List.mapM_cons]
          cases hvalue : meaning value with
          | none =>
              rw [hvalue] at hnext
              exact hnext.bind_none _
          | some a =>
              rw [hvalue] at hnext
              have hmore := ih (a :: read) (Nat.lt_of_succ_lt_succ hfuel) hafter
              refine hnext.bind ?_
              simpa [Option.map_eq_bind, Option.bind_assoc, Function.comp_def] using hmore

/-- A list means what its elements do. -/
theorem Understands.list (h : Understands element meaning) :
    Understands (Json.list element) (Value.list? meaning) := by
  refine understands_byFirst fun value b more rest hform hb hrest => ?_
  by_cases hbracket : b = '['.toUInt8
  · subst hbracket
    obtain ⟨elements, inside, parts, rfl, hinside, hparts, rfl⟩ := hform.exists_elements
    have hfuel := length_lt_joined true (Elements.ne_nil hparts) inside ']'.toUInt8 rest
    have hread := reads_ahead (elementsOnto element · [])
      (h.reads_elementsOnto hparts [] hfuel hinside rest)
    rw [List.cons_append, List.append_assoc, List.append_assoc]
    refine (reads_advance _ _).bind (Reads.placed ?_)
    rw [Value.list?]
    simp only [List.reverse_nil, List.nil_append] at hread
    exact hread.endedBy (reads_endList isBlanks_nil rest)
  · have hnone : value.list? meaning = none := by
      cases value with
      | list elements => exact absurd hb hbracket
      | _ => rfl
    rw [hnone]
    simp only [beq_iff_eq, hbracket, if_false]
    exact reads_mismatch _ _

end Lists

/-! ## Records -/

namespace Record

/-- What values mean as fields of a record, given what has been gathered of it. -/
abbrev FieldMeaning (σ : Type) := Field σ → σ → Value → Option σ

variable (meaning : FieldMeaning σ)

/-- What is gathered of a member.  One that names no field adds nothing, and one that names a field
again is refused. -/
def take? (fields : List (Field σ)) (name : String) (value : Value) (read : σ) : Option σ :=
  match fields.find? (·.name == name) with
  | none => some read
  | some field => if field.isSet read then none else meaning field read value

/-- What is gathered of the members of an object, whose keys have to be texts. -/
def gather? (fields : List (Field σ)) : List (Option String × Value) → σ → Option σ
  | [], read => some read
  | (key, value) :: members, read =>
    key.bind fun name => (take? meaning fields name value read).bind (gather? fields members)

/-- What is gathered of the elements of a list, which are no more than the fields. -/
def gatherListed? : List (Field σ) → List Value → σ → Option σ
  | _, [], read => some read
  | [], _ :: _, _ => none
  | field :: fields, value :: values, read =>
    (meaning field read value).bind (gatherListed? fields values)

/-- What a value means as a record. -/
def meaning? (record : Record σ α) : Value → Option α
  | .object members =>
    (gather? meaning record.fields members record.start).bind fun read =>
      (record.finish read).toOption
  | .list values =>
    (gatherListed? meaning record.fields values record.start).bind fun read =>
      (record.finish read).toOption
  | _ => none

variable {meaning : FieldMeaning σ} {fields : List (Field σ)} {blanks rest : Bytes}

/-- The fields are read as values mean. -/
def Understood (meaning : FieldMeaning σ) (fields : List (Field σ)) : Prop :=
  ∀ field ∈ fields, ∀ read, Understands (field.read read) (meaning field read)

/-! ### Records in lists -/

/-- The elements of a list are read as the fields, in order, and the list is to end after them. -/
theorem reads_listed (hfields : Understood meaning fields) {next : σ → Reader α} {f : σ → Option α}
    (hnext : ∀ read rest, Reads (next read) rest ((f read).map (·, rest))) {values : List Value}
    {parts : List Bytes} (hparts : Elements values parts) (first : Bool) (read : σ)
    (hblanks : IsBlanks blanks) (rest : Bytes) :
    Reads (endedBy (readFields first fields read >>= next) endList)
      (blanks ++ (joined first parts ++ ']'.toUInt8 :: rest))
      (((gatherListed? meaning fields values read).bind f).map (·, rest)) := by
  induction fields generalizing values parts first read blanks with
  | nil =>
      refine (reads_pure read _).endedBy_bind ?_
      cases hparts with
      | nil =>
          rw [joined_nil]
          exact (hnext read _).endedBy (reads_endList hblanks rest)
      | @cons value part values parts hpart hparts =>
          have hend := reads_endList_none first hpart parts hblanks (']'.toUInt8 :: rest)
          exact (hnext read _).endedBy_of_ending hend
  | cons field fields ih =>
      have hfield := hfields field List.mem_cons_self read
      have hothers : Understood meaning fields := fun field hmem =>
        hfields field (List.mem_cons_of_mem _ hmem)
      rw [readFields, bind_assoc]
      cases hparts with
      | nil =>
          rw [joined_nil]
          refine (reads_nextElement?_end (field.read read) first hblanks rest).endedBy_bind ?_
          refine (reads_pure read _).endedBy_bind ?_
          exact (hnext read _).endedBy (reads_endList isBlanks_nil rest)
      | @cons value part values parts hpart hparts =>
          obtain ⟨after, hafter, hread⟩ :=
            hfield.reads_nextElement? first hpart parts hblanks rest
          rw [gatherListed?]
          cases hvalue : meaning field read value with
          | none =>
              rw [hvalue] at hread
              exact (hread.bind_none _).endedBy_none endList
          | some read =>
              rw [hvalue] at hread
              exact hread.endedBy_bind (ih hothers hparts false read hafter)

/-! ### Records in objects -/

theorem reads_nextKey?_end (first : Bool) (hblanks : IsBlanks blanks) (rest : Bytes) :
    Reads (nextKey? first) (blanks ++ 0x7d :: rest) (some (none, 0x7d :: rest)) :=
  reads_token hblanks rfl (reads_pure _ _)

/-- The next key is read if it is a text, and its colon and its value are left. -/
theorem reads_nextKey? (first : Bool) {key : Option String} {value : Value} {part : Bytes}
    (hpart : Keyed (IsStringOf key) value.Form part) (parts : List Bytes)
    (hblanks : IsBlanks blanks) (rest : Bytes) :
    ∃ between inside inner after, IsBlanks between ∧ IsBlanks inside ∧ value.Form inner ∧
      IsBlanks after ∧
      Reads (nextKey? first) (blanks ++ (joined first (part :: parts) ++ 0x7d :: rest))
        (key.map fun name => (some name, between ++ ':'.toUInt8 :: (inside ++ (inner ++
          (after ++ (laterParts parts ++ 0x7d :: rest)))))) := by
  obtain ⟨_, _, ⟨before, _, between, hbefore, ⟨points, pieces, hpieces, rfl, rfl⟩, hbetween, rfl⟩,
    ⟨inside, inner, after, hinside, hinner, hafter, rfl⟩, rfl⟩ := hpart
  refine ⟨between, inside, inner, after, hbetween, hinside, hinner, hafter, ?_⟩
  -- What is left behind the key is the same wherever the member stands.
  generalize hleft : between ++ ':'.toUInt8 :: (inside ++ (inner ++ (after ++ (laterParts parts ++
    0x7d :: rest)))) = left
  have hread := (reads_stringContent hpieces left).map some
  simp only [Option.map_map, Function.comp_def] at hread ⊢
  rw [joined_cons]
  cases first with
  | true =>
      have hoctets : blanks ++ ([] ++ ((before ++ ('"'.toUInt8 :: (pieces.flatten ++
          ['"'.toUInt8]) ++ between)) ++ ':'.toUInt8 :: (inside ++ (inner ++ after)) ++
          laterParts parts) ++ 0x7d :: rest) =
          blanks ++ before ++ '"'.toUInt8 :: (pieces.flatten ++ '"'.toUInt8 :: left) := by
        simp [← hleft]
      rw [if_pos rfl, hoctets]
      exact reads_token (hblanks.append hbefore) rfl ((reads_advance _ _).bind hread)
  | false =>
      have hoctets : blanks ++ ([','.toUInt8] ++ ((before ++ ('"'.toUInt8 :: (pieces.flatten ++
          ['"'.toUInt8]) ++ between)) ++ ':'.toUInt8 :: (inside ++ (inner ++ after)) ++
          laterParts parts) ++ 0x7d :: rest) = blanks ++ ','.toUInt8 :: (before ++
            '"'.toUInt8 :: (pieces.flatten ++ '"'.toUInt8 :: left)) := by
        simp [← hleft]
      rw [if_neg Bool.false_ne_true, hoctets]
      refine reads_token hblanks rfl ((reads_advance _ _).bind ?_)
      exact reads_token hbefore rfl ((reads_advance _ _).bind hread)

theorem reads_colon (hblanks : IsBlanks blanks) (rest : Bytes) :
    Reads colon (blanks ++ ':'.toUInt8 :: rest) (some ((), rest)) :=
  reads_token hblanks rfl (reads_advance _ _)

/-- The value of a member is read as the field it is, or passed over. -/
theorem reads_readMember (hfields : Understood meaning fields) (name : String) (read : σ)
    {value : Value} {inner inside : Bytes} (hblanks : IsBlanks blanks) (hinside : IsBlanks inside)
    (hinner : value.Form inner) (hrest : Stops rest) :
    Reads (readMember fields name read)
      (blanks ++ ':'.toUInt8 :: (inside ++ (inner ++ rest)))
      ((take? meaning fields name value read).map (·, rest)) := by
  rw [readMember, take?]
  cases hfind : fields.find? (·.name == name) with
  | none =>
      refine (reads_colon hblanks _).bind ?_
      exact (hinner.reads_skipValue hinside hrest).bind (reads_pure _ _)
  | some field =>
      dsimp only
      cases hset : field.isSet read with
      | true => exact reads_refuse _ _
      | false =>
          have hfield := hfields field (List.mem_of_find?_eq_some hfind) read
          exact (reads_colon hblanks _).bind (hfield hinner hinside hrest)

/-- The octets of members in an object. -/
abbrev Members (members : List (Option String × Value)) (parts : List Bytes) : Prop :=
  List.Forall₂ (fun member part => Keyed (IsStringOf member.1) member.2.Form part) members parts

/-- The members that are ahead are gathered, up to the brace.  The induction is on the members; each
takes up one more octet of fuel. -/
theorem reads_readMembers (hfields : Understood meaning fields)
    {members : List (Option String × Value)} {parts : List Bytes} (hparts : Members members parts)
    {fuel : Bytes} (first : Bool) (read : σ) (hfuel : parts.length < fuel.length)
    (hblanks : IsBlanks blanks) (rest : Bytes) :
    Reads (readMembers fields fuel first read) (blanks ++ (joined first parts ++ 0x7d :: rest))
      ((gather? meaning fields members read).map (·, 0x7d :: rest)) := by
  induction hparts generalizing fuel first read blanks with
  | nil =>
      cases fuel with
      | nil => cases hfuel
      | cons c fuel =>
          rw [joined_nil]
          exact (reads_nextKey?_end first hblanks rest).bind (reads_pure _ _)
  | @cons member part members parts hpart hparts ih =>
      cases fuel with
      | nil => cases hfuel
      | cons c fuel =>
          obtain ⟨key, value⟩ := member
          obtain ⟨between, inside, inner, after, hbetween, hinside, hinner, hafter, hkey⟩ :=
            reads_nextKey? first hpart parts hblanks rest
          have hstops := hafter.stops (stops_laterParts parts (.inr (.inr rfl)) rest)
          rw [readMembers, gather?]
          cases key with
          | none => exact hkey.bind_none _
          | some name =>
              refine hkey.bind ?_
              have hmember := reads_readMember hfields name read hbetween hinside hinner hstops
              dsimp only [Option.bind_some]
              cases htake : take? meaning fields name value read with
              | none =>
                  rw [htake] at hmember
                  exact hmember.bind_none _
              | some read =>
                  rw [htake] at hmember
                  exact hmember.bind (ih false read (Nat.lt_of_succ_lt_succ hfuel) hafter)

theorem Members.ne_nil {members : List (Option String × Value)} {parts : List Bytes}
    (h : Members members parts) : ∀ part ∈ parts, part ≠ [] := by
  intro part hpart
  obtain ⟨member, -, first, second, -, -, rfl⟩ := exists_of_forall₂_right h hpart
  simp

theorem reads_endObject (hblanks : IsBlanks blanks) (rest : Bytes) :
    Reads endObject (blanks ++ 0x7d :: rest) (some ((), rest)) :=
  reads_token hblanks rfl (reads_advance _ _)

variable {record : Record σ α} {parts : List Bytes}

/-- What has been gathered is made a record of, or refused for what it lacks. -/
theorem reads_finish (record : Record σ α) (missing : String → Cause) (read : σ) (rest : Bytes) :
    Reads (match record.finish read with
      | .ok value => pure value
      | .error name => refuse (missing name)) rest
      ((record.finish read).toOption.map (·, rest)) := by
  cases record.finish read with
  | ok value => exact reads_pure _ _
  | error name => exact reads_refuse _ _

/-- The elements of a list are read as a record. -/
theorem Understood.reads_elements (hfields : Understood meaning record.fields)
    {elements : List Value} (hparts : Elements elements parts) (hblanks : IsBlanks blanks)
    (rest : Bytes) :
    Reads (endedBy record.ofElements endList)
      (blanks ++ (joined true parts ++ ']'.toUInt8 :: rest))
      ((record.meaning? meaning (.list elements)).map (·, rest)) :=
  reads_listed hfields (reads_finish record _) hparts true record.start hblanks rest

/-- The members of an object are read as a record. -/
theorem Understood.reads_members (hfields : Understood meaning record.fields)
    {members : List (Option String × Value)} (hparts : Members members parts)
    (hblanks : IsBlanks blanks) (rest : Bytes) :
    Reads (endedBy record.ofMembers endObject) (blanks ++ (joined true parts ++ 0x7d :: rest))
      ((record.meaning? meaning (.object members)).map (·, rest)) := by
  have hfuel := length_lt_joined true (Members.ne_nil hparts) blanks 0x7d rest
  have hmembers := reads_readMembers hfields hparts true record.start hfuel hblanks rest
  have hread : Reads record.ofMembers (blanks ++ (joined true parts ++ 0x7d :: rest))
      ((record.meaning? meaning (.object members)).map (·, 0x7d :: rest)) := by
    refine reads_ahead (readMembers record.fields · true record.start >>= _) ?_
    exact hmembers.bind_option (reads_finish record _)
  exact hread.endedBy (reads_endObject isBlanks_nil rest)

/-- A record is read from an object and from a list, as the values of its fields mean. -/
theorem understands_reader (hfields : Understood meaning record.fields) :
    Understands record.reader (record.meaning? meaning) := by
  refine understands_byFirst fun value b more rest hform hb hrest => ?_
  by_cases hbracket : b = '['.toUInt8
  · subst hbracket
    obtain ⟨elements, inside, parts, rfl, hinside, hparts, rfl⟩ := hform.exists_elements
    rw [List.cons_append, List.append_assoc, List.append_assoc]
    refine (reads_advance _ _).bind (Reads.placed ?_)
    exact hfields.reads_elements hparts hinside rest
  by_cases hbrace : b = 0x7b
  · subst hbrace
    obtain ⟨members, inside, parts, rfl, hinside, hparts, rfl⟩ := hform.exists_members
    rw [List.cons_append, List.append_assoc, List.append_assoc]
    refine (reads_advance _ _).bind (Reads.placed ?_)
    exact hfields.reads_members hparts hinside rest
  · have hnone : record.meaning? meaning value = none := by
      cases value with
      | list elements => exact absurd hb hbracket
      | object members => exact absurd hb hbrace
      | _ => rfl
    rw [hnone]
    simp only [beq_iff_eq, hbracket, hbrace, if_false]
    exact reads_mismatch _ _

end Record

end Cellbook.Json
