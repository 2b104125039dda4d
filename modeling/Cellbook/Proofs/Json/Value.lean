import Cellbook.Json.Compact
import Cellbook.Json.Unquoted
import Cellbook.Proofs.Json.Number
import Mathlib.Data.List.Forall2

/-!
# Values and their texts

The grammar of JSON by itself, without a reader: `Value.Text value octets` says that the octets are
a text of the value.  A value has many: white space may stand around each of its parts, a character
may stand for itself or be escaped, and an exponent may be marked in more than one way.

What the library writes is one of the texts of a value (`form_quote`, `form_writeList`,
`form_writeObject`).
-/

namespace Cellbook.Json

/-! ## Strings -/

/-- What a part of a string stands for: a character, or a surrogate, which is half of one. -/
inductive CodePoint where
  | character (c : Char)
  | surrogate (n : Nat)
  deriving Repr, DecidableEq

/-- The code point of a number of sixteen bits. -/
def CodePoint.ofNat (n : Nat) : CodePoint :=
  if 0xd800 ≤ n ∧ n ≤ 0xdfff then .surrogate n else .character (Char.ofNat n)

/-- The escapes of one letter, each with the character it stands for. -/
def letterEscapes : List (Char × Char) :=
  [('"', '"'), ('\\', '\\'), ('/', '/'), ('b', '\x08'), ('f', '\x0c'), ('n', '\n'), ('r', '\r'),
    ('t', '\t')]

/-- The octet is the hexadecimal digit of this value, in either case. -/
def IsHexDigit (value : Nat) (b : UInt8) : Prop :=
  value < 16 ∧ (b = (hexDigit value).toUInt8 ∨ b = (hexDigit value).toUpper.toUInt8)

/-- The octets may stand for the code point in a string. -/
inductive CodePoint.Form : CodePoint → Bytes → Prop
  /-- A character other than the quote, the backslash and the control characters. -/
  | plain {c : Char} (hquote : c ≠ '"') (hslash : c ≠ '\\') (hcontrol : 0x20 ≤ c.toNat) :
      Form (.character c) (String.utf8EncodeChar c)
  /-- An escape of one letter. -/
  | letter {letter c : Char} (h : (letter, c) ∈ letterEscapes) :
      Form (.character c) ['\\'.toUInt8, letter.toUInt8]
  /-- The number of a code point in four digits. -/
  | number {m n p q : Nat} {b₁ b₂ b₃ b₄ : UInt8} (h₁ : IsHexDigit m b₁) (h₂ : IsHexDigit n b₂)
      (h₃ : IsHexDigit p b₃) (h₄ : IsHexDigit q b₄) :
      Form (.ofNat (((m * 16 + n) * 16 + p) * 16 + q))
        ['\\'.toUInt8, 'u'.toUInt8, b₁, b₂, b₃, b₄]

/-- The character of a pair of surrogates. -/
def paired (lead trail : Nat) : Char :=
  Char.ofNat ((lead - 0xd800) * 0x400 + (trail - 0xdc00) + 0x10000)

/-- The characters that code points spell.  A leading and a trailing surrogate are one; a surrogate
outside such a pair spells nothing. -/
def characters? : List CodePoint → Option (List Char)
  | [] => some []
  | .character c :: points => (characters? points).map (c :: ·)
  | .surrogate lead :: .surrogate trail :: points =>
    if isLead lead ∧ isTrail trail then (characters? points).map (paired lead trail :: ·) else none
  | .surrogate _ :: _ => none

/-- The octets are a string, and this is the text it spells, if any. -/
def IsStringOf (content : Option String) (octets : Bytes) : Prop :=
  ∃ points parts, List.Forall₂ CodePoint.Form points parts ∧
    content = (characters? points).map String.ofList ∧
    octets = '"'.toUInt8 :: (parts.flatten ++ ['"'.toUInt8])

/-! ## Numbers -/

/-- One decimal digit or more. -/
def IsDigits (octets : Bytes) : Prop := octets ≠ [] ∧ ∀ b ∈ octets, isDigit b = true

/-- The octets are the point and the digits of a fraction, or there is none. -/
def IsFractionOf : Option Bytes → Bytes → Prop
  | none => fun octets => octets = []
  | some digits => fun octets => IsDigits digits ∧ octets = '.'.toUInt8 :: digits

/-- The octets are the mark, the sign and the digits of a power of ten, or there is none.  A power
that is not negative may go without a sign. -/
def IsPowerOf : Option Power → Bytes → Prop
  | none => fun octets => octets = []
  | some power => fun octets => IsDigits power.digits ∧ ∃ mark sign,
    (mark = 'e'.toUInt8 ∨ mark = 'E'.toUInt8) ∧
    (if power.negative then sign = ['-'.toUInt8] else sign = [] ∨ sign = ['+'.toUInt8]) ∧
    octets = mark :: (sign ++ power.digits)

/-- The octets are the number with these parts.  Only zero begins with the digit of zero. -/
structure Numeral.Form (numeral : Numeral) (octets : Bytes) : Prop where
  whole : IsDigits numeral.whole
  leading : numeral.whole.head? = some '0'.toUInt8 → numeral.whole = ['0'.toUInt8]
  octets_eq : ∃ fraction power, IsFractionOf numeral.fraction fraction ∧
    IsPowerOf numeral.power power ∧
    octets = (if numeral.negative then ['-'.toUInt8] else []) ++
      (numeral.whole ++ (fraction ++ power))

/-! ## Values -/

/-- A JSON value. -/
inductive Value where
  | null
  | boolean (value : Bool)
  /-- A number, by its digits. -/
  | number (numeral : Numeral)
  /-- A string, by the text it spells, if it spells one. -/
  | string (content : Option String)
  | list (elements : List Value)
  /-- An object: its keys with their values, in order. -/
  | object (members : List (Option String × Value))

/-- White space. -/
def IsBlanks (octets : Bytes) : Prop := ∀ b ∈ octets, isBlank b = true

theorem isBlanks_nil : IsBlanks [] := by
  rintro b ⟨⟩

theorem IsBlanks.append {blanks more : Bytes} (h : IsBlanks blanks) (hmore : IsBlanks more) :
    IsBlanks (blanks ++ more) := by
  intro b hb
  rcases List.mem_append.mp hb with hb | hb
  · exact h b hb
  · exact hmore b hb

/-- Octets of a form, with white space around them. -/
def Padded (form : Bytes → Prop) (octets : Bytes) : Prop :=
  ∃ before inner after, IsBlanks before ∧ form inner ∧ IsBlanks after ∧
    octets = before ++ (inner ++ after)

/-- A key of one form and a value of another, with a colon between them. -/
def Keyed (key value : Bytes → Prop) (octets : Bytes) : Prop :=
  ∃ first second, Padded key first ∧ Padded value second ∧
    octets = first ++ ':'.toUInt8 :: second

/-- Parts of forms, with commas between them, in brackets. -/
def Enclosed (opening closing : UInt8) (forms : List (Bytes → Prop)) (octets : Bytes) : Prop :=
  ∃ blanks parts, IsBlanks blanks ∧ List.Forall₂ (fun form part => form part) forms parts ∧
    octets = opening :: (blanks ++ ([','.toUInt8].intercalate parts ++ [closing]))

mutual

/-- The octets are the value, without white space around it. -/
def Value.Form : Value → Bytes → Prop
  | .null => fun octets => octets = Text.encode "null"
  | .boolean value => fun octets => octets = Text.encode (writeBool value)
  | .number numeral => numeral.Form
  | .string content => IsStringOf content
  | .list elements => Enclosed '['.toUInt8 ']'.toUInt8 (Value.elementForms elements)
  | .object members => Enclosed 0x7b 0x7d (Value.memberForms members)

/-- The forms of the elements of a list. -/
def Value.elementForms : List Value → List (Bytes → Prop)
  | [] => []
  | element :: elements => Padded element.Form :: Value.elementForms elements

/-- The forms of the members of an object. -/
def Value.memberForms : List (Option String × Value) → List (Bytes → Prop)
  | [] => []
  | (key, value) :: members => Keyed (IsStringOf key) value.Form :: Value.memberForms members

end

/-- The octets are a text of the value. -/
def Value.Text (value : Value) : Bytes → Prop := Padded value.Form

namespace Value

theorem elementForms_eq (elements : List Value) :
    elementForms elements = elements.map fun element => Padded element.Form := by
  induction elements with
  | nil => rfl
  | cons element elements ih => rw [elementForms, ih, List.map_cons]

theorem memberForms_eq (members : List (Option String × Value)) :
    memberForms members = members.map fun member => Keyed (IsStringOf member.1) member.2.Form := by
  induction members with
  | nil => rfl
  | cons member members ih => rw [memberForms, ih, List.map_cons]

/-- Induction on a value: on the elements of a list and on the values of an object. -/
@[elab_as_elim]
theorem induct {motive : Value → Prop} (null : motive .null)
    (boolean : ∀ value, motive (.boolean value)) (number : ∀ numeral, motive (.number numeral))
    (string : ∀ content, motive (.string content))
    (list : ∀ elements, (∀ element ∈ elements, motive element) → motive (.list elements))
    (object : ∀ members, (∀ member ∈ members, motive member.2) → motive (.object members))
    (value : Value) : motive value := by
  refine Value.rec (motive_1 := motive) (motive_2 := fun elements => ∀ v ∈ elements, motive v)
    (motive_3 := fun members => ∀ m ∈ members, motive m.2) (motive_4 := fun m => motive m.2)
    null boolean number string list object ?_ ?_ ?_ ?_ (fun _ _ h => h) value
  · rintro v ⟨⟩
  · intro element elements h hs v hv
    rcases List.mem_cons.mp hv with rfl | hv
    · exact h
    · exact hs v hv
  · rintro m ⟨⟩
  · intro member members h hs m hm
    rcases List.mem_cons.mp hm with rfl | hm
    · exact h
    · exact hs m hm

/-! ### First octets -/

/-- The octets that the value may begin with. -/
def Begins : Value → UInt8 → Prop
  | .null => fun b => b = 'n'.toUInt8
  | .boolean _ => fun b => b = 't'.toUInt8 ∨ b = 'f'.toUInt8
  | .number _ => fun b => b = '-'.toUInt8 ∨ isDigit b = true
  | .string _ => fun b => b = '"'.toUInt8
  | .list _ => fun b => b = '['.toUInt8
  | .object _ => fun b => b = 0x7b

variable {value : Value} {octets : Bytes} {b : UInt8}

theorem Form.begins (h : value.Form octets) : ∃ b more, octets = b :: more ∧ value.Begins b := by
  cases value with
  | null => exact ⟨_, _, h, rfl⟩
  | boolean value =>
      cases value with
      | false => exact ⟨_, _, h, .inr rfl⟩
      | true => exact ⟨_, _, h, .inl rfl⟩
  | number numeral =>
      obtain ⟨⟨hne, hdigits⟩, -, fraction, power, -, -, rfl⟩ := h
      obtain ⟨first, more, hwhole⟩ := List.exists_cons_of_ne_nil hne
      rw [hwhole] at hdigits ⊢
      cases numeral.negative with
      | false => exact ⟨first, _, rfl, .inr (hdigits first List.mem_cons_self)⟩
      | true => exact ⟨'-'.toUInt8, _, rfl, .inl rfl⟩
  | string content =>
      obtain ⟨points, parts, -, -, rfl⟩ := h
      exact ⟨_, _, rfl, rfl⟩
  | list elements =>
      obtain ⟨blanks, parts, -, -, rfl⟩ := h
      exact ⟨_, _, rfl, rfl⟩
  | object members =>
      obtain ⟨blanks, parts, -, -, rfl⟩ := h
      exact ⟨_, _, rfl, rfl⟩

/-- A value begins with none of the octets that stand between values. -/
theorem Begins.separate (h : value.Begins b) :
    isBlank b = false ∧ b ≠ ','.toUInt8 ∧ b ≠ ']'.toUInt8 ∧ b ≠ 0x7d := by
  have hdigit (h : isDigit b = true) :
      isBlank b = false ∧ b ≠ ','.toUInt8 ∧ b ≠ ']'.toUInt8 ∧ b ≠ 0x7d := by
    refine ⟨isBlank_of_isDigit h, ?_, ?_, ?_⟩ <;> rintro rfl <;> cases h
  cases value with
  | null => obtain rfl := h; decide
  | boolean value => obtain rfl | rfl := h <;> decide
  | number numeral =>
      rcases h with rfl | h
      · decide
      · exact hdigit h
  | string content => obtain rfl := h; decide
  | list elements => obtain rfl := h; decide
  | object members => obtain rfl := h; decide

theorem eq_string_of_begins (h : value.Begins '"'.toUInt8) :
    ∃ content, value = .string content := by
  cases value with
  | string content => exact ⟨content, rfl⟩
  | number numeral => rcases h with h | h <;> cases h
  | boolean value => rcases h with h | h <;> cases h
  | null | list elements | object members => cases h

theorem eq_boolean_of_begins (h : value.Begins b) (hb : b = 't'.toUInt8 ∨ b = 'f'.toUInt8) :
    ∃ content, value = .boolean content := by
  cases value with
  | boolean content => exact ⟨content, rfl⟩
  | number numeral => rcases hb with rfl | rfl <;> rcases h with h | h <;> cases h
  | null | string content | list elements | object members =>
      rcases hb with rfl | rfl <;> cases h

theorem eq_number_of_begins (h : value.Begins b) (hb : b = '-'.toUInt8 ∨ isDigit b = true) :
    ∃ numeral, value = .number numeral := by
  cases value with
  | number numeral => exact ⟨numeral, rfl⟩
  | boolean content => rcases h with rfl | rfl <;> rcases hb with hb | hb <;> cases hb
  | null | string content | list elements | object members =>
      obtain rfl := h
      rcases hb with hb | hb <;> cases hb

theorem eq_list_of_begins (h : value.Begins '['.toUInt8) : ∃ elements, value = .list elements := by
  cases value with
  | list elements => exact ⟨elements, rfl⟩
  | number numeral => rcases h with h | h <;> cases h
  | boolean value => rcases h with h | h <;> cases h
  | null | string content | object members => cases h

theorem eq_object_of_begins (h : value.Begins 0x7b) : ∃ members, value = .object members := by
  cases value with
  | object members => exact ⟨members, rfl⟩
  | number numeral => rcases h with h | h <;> cases h
  | boolean value => rcases h with h | h <;> cases h
  | null | string content | list elements => cases h

end Value

/-! ## Written forms -/

theorem Padded.of_form {form : Bytes → Prop} {octets : Bytes} (h : form octets) :
    Padded form octets :=
  ⟨[], octets, [], isBlanks_nil, h, isBlanks_nil, by simp⟩

/-! ### Written strings -/

@[simp] theorem characters?_map_character (chars : List Char) :
    characters? (chars.map .character) = some chars := by
  induction chars with
  | nil => rfl
  | cons c chars ih => simp [characters?, ih]

/-- A written character is an escape of one letter, the number of a control character, or stands for
itself. -/
theorem escape_cases (c : Char) :
    (∃ letter, (letter, c) ∈ letterEscapes ∧ escape c = ['\\', letter]) ∨
    (c.toNat < 0x20 ∧ escape c =
      ['\\', 'u', hexDigit 0, hexDigit 0, hexDigit (c.toNat / 16), hexDigit (c.toNat % 16)]) ∨
    (c ≠ '"' ∧ c ≠ '\\' ∧ 0x20 ≤ c.toNat ∧ escape c = [c]) := by
  fun_cases escape c with
  | case1 h =>
      obtain rfl := beq_iff_eq.mp h
      exact .inl ⟨'"', by decide, rfl⟩
  | case2 _ h =>
      obtain rfl := beq_iff_eq.mp h
      exact .inl ⟨'\\', by decide, rfl⟩
  | case3 _ _ h =>
      obtain rfl := eq_ofNat_of_toNat (beq_iff_eq.mp h)
      exact .inl ⟨'b', by decide, rfl⟩
  | case4 _ _ _ h =>
      obtain rfl := beq_iff_eq.mp h
      exact .inl ⟨'t', by decide, rfl⟩
  | case5 _ _ _ _ h =>
      obtain rfl := beq_iff_eq.mp h
      exact .inl ⟨'n', by decide, rfl⟩
  | case6 _ _ _ _ _ h =>
      obtain rfl := eq_ofNat_of_toNat (beq_iff_eq.mp h)
      exact .inl ⟨'f', by decide, rfl⟩
  | case7 _ _ _ _ _ _ h =>
      obtain rfl := beq_iff_eq.mp h
      exact .inl ⟨'r', by decide, rfl⟩
  | case8 _ _ _ _ _ _ _ h => exact .inr (.inl ⟨h, rfl⟩)
  | case9 hquote hslash _ _ _ _ _ hcontrol =>
      refine .inr (.inr ⟨?_, ?_, Nat.le_of_not_lt hcontrol, rfl⟩)
      · exact fun hc => hquote (beq_iff_eq.mpr hc)
      · exact fun hc => hslash (beq_iff_eq.mpr hc)

/-- A written character is one of the forms of the character. -/
theorem form_escape (c : Char) :
    (CodePoint.character c).Form ((escape c).flatMap String.utf8EncodeChar) := by
  rcases escape_cases c with ⟨letter, h, hc⟩ | ⟨hcontrol, hc⟩ | ⟨hquote, hslash, hcode, hc⟩
  · have hascii : ∀ e ∈ letterEscapes,
        ['\\', e.1].flatMap String.utf8EncodeChar = ['\\'.toUInt8, e.1.toUInt8] := by decide
    rw [hc, hascii _ h]
    exact .letter h
  · have hdigit {d : Nat} (hd : d < 16) : IsHexDigit d (hexDigit d).toUInt8 := ⟨hd, .inl rfl⟩
    have hnumber : ((0 * 16 + 0) * 16 + c.toNat / 16) * 16 + c.toNat % 16 = c.toNat := by omega
    have hpoint : CodePoint.ofNat c.toNat = .character c := by
      rw [CodePoint.ofNat, if_neg (by omega), Char.ofNat_toNat]
    have hform := CodePoint.Form.number (hdigit (d := 0) (by omega)) (hdigit (d := 0) (by omega))
      (hdigit (d := c.toNat / 16) (by omega)) (hdigit (d := c.toNat % 16) (by omega))
    rw [hnumber, hpoint] at hform
    simp only [hc, List.flatMap_cons, List.flatMap_nil]
    rw [utf8EncodeChar_hexDigit (c.toNat / 16) (by omega),
      utf8EncodeChar_hexDigit (c.toNat % 16) (by omega)]
    exact hform
  · rw [hc, List.flatMap_singleton]
    exact .plain hquote hslash hcode

/-- Characters, each in one of its forms and between quotes, are a string of their text. -/
theorem isStringOf_characters (form : Char → Bytes) {chars : List Char}
    (h : ∀ c ∈ chars, (CodePoint.character c).Form (form c)) :
    IsStringOf (some (String.ofList chars))
      ('"'.toUInt8 :: (chars.flatMap form ++ ['"'.toUInt8])) := by
  refine ⟨chars.map .character, chars.map form, ?_, by simp, by rw [List.flatMap_def]⟩
  rw [List.forall₂_map_left_iff, List.forall₂_map_right_iff, List.forall₂_same]
  exact h

theorem isStringOf_quote (text : String) : IsStringOf (some text) (Text.encode (quote text)) := by
  have hforms : ∀ c ∈ text.toList, (CodePoint.character c).Form
      ((escape c).flatMap String.utf8EncodeChar) := fun c _ => form_escape c
  have hstring := isStringOf_characters _ hforms
  rw [String.ofList_toList, ← List.flatMap_assoc] at hstring
  rw [encode_quote]
  exact hstring

/-- A written string is a text of the string. -/
theorem form_quote (text : String) : (Value.string (some text)).Form (Text.encode (quote text)) :=
  isStringOf_quote text

/-- A text whose octets all stand for themselves may be written between quotes as it is. -/
theorem isStringOf_plain {text : String} (h : ∀ b ∈ Text.encode text, IsPlain b) :
    IsStringOf (some text) ('"'.toUInt8 :: (Text.encode text ++ ['"'.toUInt8])) := by
  have hforms : ∀ c ∈ text.toList, (CodePoint.character c).Form (String.utf8EncodeChar c) := by
    intro c hc
    have hoctets : ∀ b ∈ String.utf8EncodeChar c, IsPlain b := fun b hb =>
      h b (List.mem_flatMap.mpr ⟨c, hc, hb⟩)
    refine .plain ?_ ?_ ?_
    · rintro rfl
      exact (hoctets _ List.mem_cons_self).1 rfl
    · rintro rfl
      exact (hoctets _ List.mem_cons_self).2.1 rfl
    · by_contra hcontrol
      rw [utf8EncodeChar_ascii (by omega)] at hoctets
      refine (hoctets _ List.mem_cons_self).2.2 ?_
      rw [UInt8.lt_iff_toNat_lt, Text.toNat_ofNat_octet (by omega)]
      exact Nat.lt_of_not_le hcontrol
  have hstring := isStringOf_characters _ hforms
  rw [String.ofList_toList] at hstring
  exact hstring

/-! ### Written counts -/

/-- A written count is a text of the number of its digits. -/
theorem form_toString (n : Nat) :
    (Value.number ⟨false, digitOctets n, none, none⟩).Form (Text.encode (toString n)) := by
  refine ⟨⟨digitOctets_ne_nil n, isDigit_of_mem⟩, fun hhead => ?_, [], [], rfl, rfl, ?_⟩
  · obtain ⟨first, more, hfirst⟩ := List.exists_cons_of_ne_nil (digitOctets_ne_nil n)
    dsimp only at hhead ⊢
    rw [hfirst, List.head?_cons, Option.some_inj] at hhead
    subst hhead
    rw [eq_zero_of_head hfirst]
    rfl
  · rw [encode_toString]
    simp

/-! ### Written lists and objects -/

theorem encode_intercalate (items : List String) :
    Text.encode (",".intercalate items) =
      [','.toUInt8].intercalate (items.map Text.encode) := by
  rw [Text.encode, String.toList_intercalate]
  induction items with
  | nil => rfl
  | cons item items ih =>
      cases items with
      | nil => simp [Text.encode]
      | cons next items =>
          simp only [List.map_cons, List.intercalate_cons_cons, List.flatMap_append] at ih ⊢
          rw [ih]
          rfl

/-- A written list is a text of the list of what its items are texts of. -/
theorem form_writeList {values : List Value} {items : List String}
    (h : List.Forall₂ (fun value item => value.Form (Text.encode item)) values items) :
    (Value.list values).Form (Text.encode (writeList items)) := by
  refine ⟨[], items.map Text.encode, isBlanks_nil, ?_, ?_⟩
  · rw [Value.elementForms_eq, List.forall₂_map_left_iff, List.forall₂_map_right_iff]
    exact h.imp fun value item hitem => .of_form hitem
  · rw [writeList, Text.encode_append, Text.encode_append, encode_intercalate]
    rfl

/-- Items are written one by one, as texts of their values. -/
theorem form_writeList_map {α : Type} {items : List α} {value : α → Value} {written : α → String}
    (h : ∀ a ∈ items, (value a).Form (Text.encode (written a))) :
    (Value.list (items.map value)).Form (Text.encode (writeList (items.map written))) := by
  refine form_writeList ?_
  rw [List.forall₂_map_left_iff, List.forall₂_map_right_iff, List.forall₂_same]
  exact h

/-- Members between braces are a text of the object of their keys and values. -/
theorem form_object {members : List (Option String × Value)} {parts : List Bytes}
    (h : List.Forall₂ (fun member part => ∃ key value, IsStringOf member.1 key ∧
      member.2.Form value ∧ part = key ++ ':'.toUInt8 :: value) members parts) :
    (Value.object members).Form (0x7b :: ([','.toUInt8].intercalate parts ++ [0x7d])) := by
  refine ⟨[], parts, isBlanks_nil, ?_, rfl⟩
  rw [Value.memberForms_eq, List.forall₂_map_left_iff]
  refine h.imp fun member part hpart => ?_
  obtain ⟨key, value, hkey, hvalue, hoctets⟩ := hpart
  exact ⟨key, value, .of_form hkey, .of_form hvalue, hoctets⟩

/-- A written object is a text of the object of its keys, with what its items are texts of. -/
theorem form_writeObject {members : List (Option String × Value)} {items : List (String × String)}
    (h : List.Forall₂ (fun member item => member.1 = some item.1 ∧
      member.2.Form (Text.encode item.2)) members items) :
    (Value.object members).Form (Text.encode (writeObject items)) := by
  have hmember (item : String × String) : Text.encode (quote item.1 ++ ":" ++ item.2) =
      Text.encode (quote item.1) ++ ':'.toUInt8 :: Text.encode item.2 := by
    rw [Text.encode_append, Text.encode_append, List.append_assoc]
    rfl
  have hoctets : Text.encode (writeObject items) = 0x7b :: ([','.toUInt8].intercalate
      (items.map fun item => Text.encode (quote item.1) ++ ':'.toUInt8 :: Text.encode item.2) ++
        [0x7d]) := by
    rw [writeObject, Text.encode_append, Text.encode_append, encode_intercalate, List.map_map]
    simp only [Function.comp_def, hmember]
    rfl
  rw [hoctets]
  refine form_object ?_
  rw [List.forall₂_map_right_iff]
  refine h.imp fun member item hitem => ?_
  rw [hitem.1]
  exact ⟨_, _, isStringOf_quote item.1, hitem.2, rfl⟩

end Cellbook.Json
