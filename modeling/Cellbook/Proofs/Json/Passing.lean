import Cellbook.Proofs.Json.Literals

/-!
# Any value passed over

A value is passed over whatever it is and however deep it goes, and all that follows it is left
(`Value.Form.reads_skipValue`).  The frames that are open stand before the reader in a list, not in
its recursion, so there is no bound on the depth of nesting.

The fact is one about a value within the frames around it, by induction on the value: after it the
reader is where `resume` goes on.  A list and an object differ only in what stands before a value in
them, a key or nothing (`Frame.Holds`).
-/

namespace Cellbook.Json

/-! ## Stops -/

/-- An octet that stands after an element or a member is no part of a number. -/
theorem Closes.stops {b : UInt8} (h : Closes b) (rest : Bytes) : Stops (b :: rest) := by
  rintro c ⟨⟩
  rcases h with rfl | rfl | rfl <;> decide

theorem stops_nil : Stops [] := by
  rintro b ⟨⟩

theorem IsBlanks.stops {blanks rest : Bytes} (h : IsBlanks blanks) (hrest : Stops rest) :
    Stops (blanks ++ rest) := by
  cases blanks with
  | nil => exact hrest
  | cons b blanks =>
      have hblank : isBlank b = true := h b List.mem_cons_self
      rintro c ⟨⟩
      refine ⟨?_, ?_, ?_, ?_⟩
      · cases hdigit : isDigit b with
        | false => rfl
        | true => rw [isBlank_of_isDigit hdigit] at hblank; cases hblank
      all_goals
        rintro rfl
        cases hblank

theorem stops_laterParts (parts : List Bytes) {close : UInt8} (h : Closes close) (rest : Bytes) :
    Stops (laterParts parts ++ close :: rest) := by
  obtain ⟨b, others, hothers, hb⟩ := exists_laterParts parts h
  rw [← List.singleton_append, ← List.append_assoc, hothers]
  exact hb.stops _

/-! ## Frames -/

/-- Passes over what is left of the frames that are open, before a value of the innermost. -/
def proceed (fuel : Bytes) : List Frame → Reader Unit
  | [] => pure ()
  | frame :: outer => do
    if frame == .object then skipKey
    skipFrames fuel (frame :: outer)

/-- Passes over what is left of the frames that are open, after a value of the innermost. -/
def resume (fuel : Bytes) (frames : List Frame) : Reader Unit :=
  closeFrames true frames >>= proceed fuel

theorem skipFrames_cons (b : UInt8) (fuel : Bytes) (frames : List Frame) :
    skipFrames (b :: fuel) frames = skipHead >>= fun opened =>
      closeFrames opened.isNone (opened.toList ++ frames) >>= proceed fuel := rfl

section Frames

variable {frame : Frame} {outer frames : List Frame} {fuel blanks rest : Bytes}
  {result : Option (Unit × Bytes)}

theorem Frame.closes (frame : Frame) : Closes frame.closing := by
  cases frame with
  | list => exact .inr (.inl rfl)
  | object => exact .inr (.inr rfl)

theorem Closes.separate {b : UInt8} (h : Closes b) : isBlank b = false := by
  obtain rfl | rfl | rfl := h <;> rfl

/-- What closes the innermost frame leaves the reader after a value of the next. -/
theorem reads_closeFrames_closing (filled : Bool) (hblanks : IsBlanks blanks)
    (h : Reads (resume fuel outer) rest result) :
    Reads (closeFrames filled (frame :: outer) >>= proceed fuel)
      (blanks ++ frame.closing :: rest) result := by
  have hcomma : (frame.closing == ','.toUInt8) = false := by cases frame <;> rfl
  rw [closeFrames, bind_assoc]
  refine reads_token hblanks frame.closes.separate ?_
  simp only [hcomma, Bool.false_and, Bool.false_eq_true, if_false, beq_self_eq_true, if_true]
  rw [bind_assoc]
  exact (reads_advance _ _).bind h

/-- A comma leaves the reader before the next value of the innermost frame. -/
theorem reads_resume_comma (hblanks : IsBlanks blanks)
    (h : Reads (proceed fuel (frame :: outer)) rest result) :
    Reads (resume fuel (frame :: outer)) (blanks ++ ','.toUInt8 :: rest) result := by
  rw [resume, closeFrames, bind_assoc]
  refine reads_token hblanks rfl ?_
  simp only [beq_self_eq_true, Bool.true_and, if_true]
  rw [bind_assoc]
  exact (reads_advance _ _).bind ((reads_pure _ _).bind h)

/-- Right after a frame was opened, what begins a value leaves the reader before it. -/
theorem reads_closeFrames_open {b : UInt8} (hblanks : IsBlanks blanks) (hb : isBlank b = false)
    (hclosing : b ≠ frame.closing) (h : Reads (proceed fuel (frame :: outer)) (b :: rest) result) :
    Reads (closeFrames false (frame :: outer) >>= proceed fuel) (blanks ++ b :: rest) result := by
  rw [closeFrames, bind_assoc]
  refine reads_token hblanks hb ?_
  simp only [Bool.and_false, Bool.false_eq_true, if_false, beq_iff_eq, hclosing]
  exact (reads_pure _ _).bind h

/-- The octets are passed over by a reader, from before a value of the innermost frame to after it:
the reader then goes on as from there. -/
def SkippedBy (reader : Bytes → List Frame → Reader Unit) (frames : List Frame) (octets : Bytes) :
    Prop :=
  ∀ ⦃fuel blanks rest : Bytes⦄ ⦃result : Option (Unit × Bytes)⦄, IsBlanks blanks → Stops rest →
    (octets ++ rest).length ≤ fuel.length →
    (∀ left : Bytes, rest.length ≤ left.length → Reads (resume left frames) rest result) →
      Reads (reader fuel frames) (blanks ++ (octets ++ rest)) result

/-- The octets are a part of a frame, and are passed over as such. -/
structure Frame.Holds (frame : Frame) (outer : List Frame) (octets : Bytes) : Prop where
  begins : ∃ b more, octets = b :: more ∧ isBlank b = false ∧ b ≠ frame.closing
  skipped : SkippedBy proceed (frame :: outer) octets

/-- After a first part a frame is passed over up to what closes it, by induction on the parts still
ahead.  What lies ahead is never longer than the fuel. -/
theorem reads_resume_later {parts : List Bytes}
    (h : ∀ part ∈ parts, Padded (frame.Holds outer) part) (hblanks : IsBlanks blanks)
    (hfuel : (laterParts parts ++ frame.closing :: rest).length ≤ fuel.length)
    (hrest : ∀ left : Bytes, rest.length ≤ left.length → Reads (resume left outer) rest result) :
    Reads (resume fuel (frame :: outer)) (blanks ++ (laterParts parts ++ frame.closing :: rest))
      result := by
  induction parts generalizing fuel blanks with
  | nil =>
      refine reads_closeFrames_closing true hblanks (hrest fuel ?_)
      simp [laterParts] at hfuel
      omega
  | cons part parts ih =>
      obtain ⟨before, inner, after, hbefore, hinner, hafter, rfl⟩ := h part List.mem_cons_self
      have hothers : ∀ part ∈ parts, Padded (frame.Holds outer) part := fun part hpart =>
        h part (List.mem_cons_of_mem _ hpart)
      have hoctets : laterParts ((before ++ (inner ++ after)) :: parts) ++ frame.closing :: rest =
          ','.toUInt8 :: (before ++ (inner ++ (after ++ (laterParts parts ++
            frame.closing :: rest)))) := by
        simp [laterParts]
      rw [hoctets] at hfuel ⊢
      simp only [List.length_cons, List.length_append] at hfuel
      refine reads_resume_comma hblanks (hinner.skipped hbefore ?_ ?_ ?_)
      · exact hafter.stops (stops_laterParts parts frame.closes rest)
      · simp only [List.length_append, List.length_cons]
        omega
      · intro left hleft
        refine ih hothers hafter ?_
        simp only [List.length_append, List.length_cons] at hleft ⊢
        omega

/-- A value of one token is passed over. -/
theorem skippedBy_of_head {octets : Bytes} (hne : octets ≠ [])
    (h : ∀ {blanks rest : Bytes}, IsBlanks blanks → Stops rest →
      Reads skipHead (blanks ++ (octets ++ rest)) (some (none, rest))) (frames : List Frame) :
    SkippedBy skipFrames frames octets := by
  intro fuel blanks rest result hblanks hrest hfuel hleft
  obtain ⟨b, more, rfl⟩ := List.exists_cons_of_ne_nil hne
  cases fuel with
  | nil => cases hfuel
  | cons c fuel =>
      rw [skipFrames_cons]
      refine (h hblanks hrest).bind (hleft fuel ?_)
      simp at hfuel
      omega

/-- A frame with all its parts is passed over. -/
theorem skippedBy_enclosed (frame : Frame) {opening : UInt8} {parts : List Bytes} {inside : Bytes}
    (hhead : ∀ {blanks rest : Bytes}, IsBlanks blanks →
      Reads skipHead (blanks ++ opening :: rest) (some (some frame, rest)))
    (hinside : IsBlanks inside) (h : ∀ part ∈ parts, Padded (frame.Holds frames) part) :
    SkippedBy skipFrames frames
      (opening :: (inside ++ ([','.toUInt8].intercalate parts ++ [frame.closing]))) := by
  intro fuel blanks rest result hblanks hrest hfuel hleft
  cases fuel with
  | nil => cases hfuel
  | cons c fuel =>
      rw [skipFrames_cons, List.cons_append]
      refine (hhead hblanks).bind ?_
      cases parts with
      | nil =>
          have hresume : Reads (resume fuel frames) rest result :=
            hleft fuel (by simp at hfuel; omega)
          have hclose : Reads (closeFrames false (frame :: frames) >>= proceed fuel)
              (inside ++ frame.closing :: rest) result :=
            reads_closeFrames_closing false hinside hresume
          simpa using hclose
      | cons part parts =>
          obtain ⟨before, inner, after, hbefore, hinner, hafter, rfl⟩ := h part List.mem_cons_self
          have hothers : ∀ part ∈ parts, Padded (frame.Holds frames) part := fun part hpart =>
            h part (List.mem_cons_of_mem _ hpart)
          have hoctets :
              inside ++ ([','.toUInt8].intercalate ((before ++ (inner ++ after)) :: parts) ++
                [frame.closing]) ++ rest =
              inside ++ before ++ (inner ++ (after ++ (laterParts parts ++
                frame.closing :: rest))) := by
            simp [intercalate_cons]
          rw [List.cons_append, List.length_cons, hoctets] at hfuel
          simp only [List.length_cons, List.length_append] at hfuel
          have hproceed : Reads (proceed fuel (frame :: frames))
              ([] ++ (inner ++ (after ++ (laterParts parts ++ frame.closing :: rest)))) result := by
            refine hinner.skipped isBlanks_nil ?_ ?_ ?_
            · exact hafter.stops (stops_laterParts parts frame.closes rest)
            · simp only [List.length_append, List.length_cons]
              omega
            · intro left hmore
              refine reads_resume_later hothers hafter ?_ hleft
              simp only [List.length_append, List.length_cons] at hmore ⊢
              omega
          obtain ⟨b, more, rfl, hb, hclosing⟩ := hinner.begins
          rw [hoctets]
          exact reads_closeFrames_open (hinside.append hbefore) hb hclosing hproceed

end Frames

/-! ## Values -/

section Values

variable {octets : Bytes}

/-- What is on the right of a relation of lists has its counterpart on the left. -/
theorem exists_of_forall₂_right {α β : Type} {R : α → β → Prop} {as : List α} {bs : List β}
    (h : List.Forall₂ R as bs) {b : β} (hb : b ∈ bs) : ∃ a ∈ as, R a b := by
  induction h with
  | nil => cases hb
  | cons hhead htail ih =>
      rcases List.mem_cons.mp hb with rfl | hb
      · exact ⟨_, List.mem_cons_self, hhead⟩
      · obtain ⟨a, ha, hab⟩ := ih hb
        exact ⟨a, List.mem_cons_of_mem _ ha, hab⟩

/-- Each of the three words is passed over as one token. -/
theorem skippedBy_word {word : String} (h : word ∈ ["null", "true", "false"])
    (frames : List Frame) : SkippedBy skipFrames frames (Text.encode word) := by
  simp only [List.mem_cons, List.not_mem_nil, or_false] at h
  rcases h with rfl | rfl | rfl
  · refine skippedBy_of_head (List.cons_ne_nil _ _) (fun {_ rest} hblanks _ => ?_) frames
    exact reads_token hblanks rfl
      ((reads_expectWord ['n', 'u', 'l', 'l'] rest).bind (reads_pure none rest))
  · refine skippedBy_of_head (List.cons_ne_nil _ _) (fun {_ rest} hblanks _ => ?_) frames
    exact reads_token hblanks rfl
      ((reads_expectWord ['t', 'r', 'u', 'e'] rest).bind (reads_pure none rest))
  · refine skippedBy_of_head (List.cons_ne_nil _ _) (fun {_ rest} hblanks _ => ?_) frames
    exact reads_token hblanks rfl
      ((reads_expectWord ['f', 'a', 'l', 's', 'e'] rest).bind (reads_pure none rest))

theorem Numeral.Form.skipped {numeral : Numeral} (h : numeral.Form octets) (frames : List Frame) :
    SkippedBy skipFrames frames octets := by
  have hne : octets ≠ [] := by
    obtain ⟨first, more, -, rfl, -⟩ := h.reads_skipNumber stops_nil
    simp
  refine skippedBy_of_head hne ?_ frames
  intro blanks rest hblanks hrest
  obtain ⟨first, more, hfirst, rfl, hread⟩ := h.reads_skipNumber hrest
  cases hsign : numeral.negative with
  | true =>
      rw [hsign] at hread
      exact reads_token hblanks rfl ((reads_advance _ _).bind (hread.bind (reads_pure _ _)))
  | false =>
      rw [hsign] at hread
      have hletters : first ≠ 'n'.toUInt8 ∧ first ≠ 't'.toUInt8 ∧ first ≠ 'f'.toUInt8 := by
        refine ⟨?_, ?_, ?_⟩ <;> rintro rfl <;> cases hfirst
      refine reads_token hblanks (isBlank_of_isDigit hfirst) ?_
      simp only [beq_iff_eq, hletters.1, hletters.2.1, hletters.2.2, ne_minus_of_isDigit hfirst,
        if_false, hfirst, if_true]
      exact hread.bind (reads_pure _ _)

theorem IsStringOf.skipped {content : Option String} (h : IsStringOf content octets)
    (frames : List Frame) : SkippedBy skipFrames frames octets := by
  obtain ⟨points, parts, hparts, -, rfl⟩ := h
  refine skippedBy_of_head (List.cons_ne_nil _ _) ?_ frames
  intro blanks rest hblanks hrest
  have hread := reads_skipString hparts rest
  rw [List.cons_append, List.append_assoc]
  exact reads_token hblanks rfl ((reads_advance _ _).bind (hread.bind (reads_pure _ _)))

/-- A key and its colon are passed over. -/
theorem IsStringOf.reads_skipKey {content : Option String} (h : IsStringOf content octets)
    {blanks after : Bytes} (hblanks : IsBlanks blanks) (hafter : IsBlanks after) (rest : Bytes) :
    Reads skipKey (blanks ++ (octets ++ (after ++ ':'.toUInt8 :: rest))) (some ((), rest)) := by
  obtain ⟨points, parts, hparts, -, rfl⟩ := h
  rw [List.cons_append, List.append_assoc]
  refine reads_token hblanks rfl ((reads_advance _ _).bind ((reads_skipString hparts _).bind ?_))
  exact reads_token hafter rfl (reads_advance _ rest)

/-- A value is a part of a list. -/
theorem holds_list {value : Value} {outer : List Frame} (h : value.Form octets)
    (hskipped : SkippedBy skipFrames (.list :: outer) octets) : Frame.list.Holds outer octets := by
  obtain ⟨b, more, rfl, hb⟩ := h.begins
  exact ⟨⟨b, more, rfl, hb.separate.1, hb.separate.2.2.1⟩, hskipped⟩

/-- A key and a value are a part of an object, but for the white space around them. -/
theorem holds_object {content : Option String} {value : Value} {outer : List Frame}
    (h : Keyed (IsStringOf content) value.Form octets)
    (hskipped : ∀ {inner}, value.Form inner → SkippedBy skipFrames (.object :: outer) inner) :
    Padded (Frame.object.Holds outer) octets := by
  obtain ⟨_, _, ⟨before, key, between, hbefore, hkey, hbetween, rfl⟩,
    ⟨lead, inner, after, hlead, hinner, hafter, rfl⟩, rfl⟩ := h
  refine ⟨before, key ++ (between ++ ':'.toUInt8 :: (lead ++ inner)), after, hbefore, ⟨?_, ?_⟩,
    hafter, by simp⟩
  · obtain ⟨points, parts, -, -, rfl⟩ := hkey
    exact ⟨'"'.toUInt8, _, rfl, rfl, by decide⟩
  · intro fuel blanks rest result hblanks hrest hfuel hleft
    have hoctets : key ++ (between ++ ':'.toUInt8 :: (lead ++ inner)) ++ rest =
        key ++ (between ++ ':'.toUInt8 :: (lead ++ (inner ++ rest))) := by simp
    rw [hoctets] at hfuel ⊢
    refine (hkey.reads_skipKey hblanks hbetween _).bind (hskipped hinner hlead hrest ?_ hleft)
    simp only [List.length_append, List.length_cons] at hfuel ⊢
    omega

/-- A value is passed over within any frames, by induction on the value. -/
theorem Value.Form.skipped {value : Value} (h : value.Form octets) (frames : List Frame) :
    SkippedBy skipFrames frames octets := by
  induction value using Value.induct generalizing octets frames with
  | null =>
      obtain rfl := h
      exact skippedBy_word (by simp) frames
  | boolean value =>
      obtain rfl := h
      cases value with
      | false => exact skippedBy_word (by simp [writeBool]) frames
      | true => exact skippedBy_word (by simp [writeBool]) frames
  | number numeral => exact Numeral.Form.skipped h frames
  | string content => exact IsStringOf.skipped h frames
  | list elements ih =>
      obtain ⟨inside, parts, hinside, hparts, rfl⟩ := h
      rw [Value.elementForms_eq, List.forall₂_map_left_iff] at hparts
      refine skippedBy_enclosed .list (fun hblanks => ?_) hinside ?_
      · exact reads_token hblanks rfl ((reads_advance _ _).bind (reads_pure _ _))
      · intro part hpart
        obtain ⟨element, helement, before, inner, after, hbefore, hinner, hafter, rfl⟩ :=
          exists_of_forall₂_right hparts hpart
        exact ⟨before, inner, after, hbefore, holds_list hinner (ih element helement hinner _),
          hafter, rfl⟩
  | object members ih =>
      obtain ⟨inside, parts, hinside, hparts, rfl⟩ := h
      rw [Value.memberForms_eq, List.forall₂_map_left_iff] at hparts
      refine skippedBy_enclosed .object (fun hblanks => ?_) hinside ?_
      · exact reads_token hblanks rfl ((reads_advance _ _).bind (reads_pure _ _))
      · intro part hpart
        obtain ⟨member, hmember, hform⟩ := exists_of_forall₂_right hparts hpart
        exact holds_object hform fun hinner => ih member hmember hinner _

/-- A value is passed over, and what follows it is left. -/
theorem Value.Form.reads_skipValue {value : Value} (h : value.Form octets) {blanks rest : Bytes}
    (hblanks : IsBlanks blanks) (hrest : Stops rest) :
    Reads skipValue (blanks ++ (octets ++ rest)) (some ((), rest)) := by
  refine reads_ahead (skipFrames · []) (h.skipped [] hblanks hrest ?_ fun left _ => ?_)
  · simp
  · exact (reads_pure _ _).bind (reads_pure _ _)

end Values

end Cellbook.Json
