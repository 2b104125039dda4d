import Cellbook.Proofs.Json.Meaning

/-!
# Objects of texts

`textObject` reads an object whose values are texts and answers its members, in order.  Like the
readers of lists and records it understands values (`understands_textObject`): an object means its
keys with the texts that its values are, however many there are.
-/

namespace Cellbook.Json

/-! ## Reading -/

/-- Reads the members of an object of texts onto those already read, newest first, and what ends the
object.  There are no more members than octets ahead, which are given first. -/
def textMembersOnto : Bytes → List (String × String) → Reader (List (String × String))
  | [], _ => failAhead .endInObject
  | _ :: fuel, read => do
    match ← Record.nextKey? read.isEmpty with
    | none =>
      Record.endObject
      pure read.reverse
    | some key =>
      Record.colon
      let value ← text
      textMembersOnto fuel ((key, value) :: read)

/-- Reads an object of texts: the key and the value of each member, in order. -/
def textObject : Reader (List (String × String)) := byFirst fun b =>
  if b == 0x7b then do
    advance
    textMembersOnto (← get).rest []
  else mismatch "a map"

/-! ## Meaning -/

/-- The key and the text of a member. -/
def textMember? (member : Option String × Value) : Option (String × String) :=
  member.1.bind fun key => member.2.text?.map (key, ·)

/-- The keys and the texts of an object. -/
def Value.texts? : Value → Option (List (String × String))
  | .object members => members.mapM textMember?
  | _ => none

/-- The members that are ahead are read onto those before them, up to the brace.  The induction is
on the members; each takes up one more octet of fuel. -/
theorem reads_textMembersOnto {members : List (Option String × Value)} {parts : List Bytes}
    (hparts : Record.Members members parts) {fuel blanks : Bytes} (read : List (String × String))
    (hfuel : parts.length < fuel.length) (hblanks : IsBlanks blanks) (rest : Bytes) :
    Reads (textMembersOnto fuel read) (blanks ++ (joined read.isEmpty parts ++ 0x7d :: rest))
      ((members.mapM textMember?).map fun more => (read.reverse ++ more, rest)) := by
  induction hparts generalizing fuel read blanks with
  | nil =>
      cases fuel with
      | nil => cases hfuel
      | cons c fuel =>
          have hmembers : ([].mapM textMember?).map (fun more => (read.reverse ++ more, rest)) =
              some (read.reverse, rest) := by simp
          rw [hmembers, joined_nil]
          refine (Record.reads_nextKey?_end read.isEmpty hblanks rest).bind ?_
          exact (Record.reads_endObject isBlanks_nil rest).bind (reads_pure _ _)
  | @cons member part members parts hpart hparts ih =>
      cases fuel with
      | nil => cases hfuel
      | cons c fuel =>
          obtain ⟨key, value⟩ := member
          obtain ⟨between, inside, inner, after, hbetween, hinside, hinner, hafter, hkey⟩ :=
            Record.reads_nextKey? read.isEmpty hpart parts hblanks rest
          have hstops := hafter.stops (stops_laterParts parts (.inr (.inr rfl)) rest)
          rw [textMembersOnto, List.mapM_cons]
          cases key with
          | none => exact hkey.bind_none _
          | some name =>
              have htext := understands_text hinner hinside hstops
              refine hkey.bind ((Record.reads_colon hbetween _).bind ?_)
              cases hvalue : value.text? with
              | none =>
                  rw [hvalue] at htext
                  simpa [textMember?, hvalue] using htext.bind_none _
              | some content =>
                  rw [hvalue] at htext
                  have hmore := ih ((name, content) :: read) (Nat.lt_of_succ_lt_succ hfuel) hafter
                  refine htext.bind ?_
                  simpa [textMember?, hvalue, Option.map_eq_bind, Option.bind_assoc,
                    Function.comp_def] using hmore

/-- An object of texts means its keys and their texts. -/
theorem understands_textObject : Understands textObject Value.texts? := by
  refine understands_byFirst fun value b more rest hform hb hrest => ?_
  by_cases hbrace : b = 0x7b
  · subst hbrace
    obtain ⟨members, inside, parts, rfl, hinside, hparts, rfl⟩ := hform.exists_members
    have hfuel := length_lt_joined true (Record.Members.ne_nil hparts) inside 0x7d rest
    rw [List.cons_append, List.append_assoc, List.append_assoc]
    refine (reads_advance _ _).bind (reads_ahead (textMembersOnto · []) ?_)
    exact reads_textMembersOnto hparts [] hfuel hinside rest
  · have hnone : value.texts? = none := by
      cases value with
      | object members => exact absurd hb hbrace
      | _ => rfl
    rw [hnone]
    simp only [beq_iff_eq, hbrace, if_false]
    exact reads_mismatch _ _

end Cellbook.Json
