import Cellbook.Rendering.Rendered

/-!
# Values that may be missing at several levels

A value under one or more levels at which it may be missing shows its text and the bytes behind it,
and none of its offers, however many levels there are (`represent_wrap`).  So it is absent where it
was absent by itself, an image where its bytes begin as one, and its text otherwise: its rendering
is another one just if it has an offer that neither absence nor an image comes before
(`encode_nested`).
-/

namespace Cellbook

/-! ## Images -/

/-- Whether octets begin as those of an image do. -/
def IsImage (octets : Bytes) : Prop := jpegMagic <+: octets ∨ pngMagic <+: octets

theorem imageBundle?_of_jpeg {octets : Bytes} (h : jpegMagic <+: octets) :
    imageBundle? octets = some ⟨[("image/jpeg", .binary octets)]⟩ := by
  rw [imageBundle?, sniffImage?, if_pos (List.isPrefixOf_iff_prefix.mpr h)]
  rfl

/-- No octets begin as both kinds of images do. -/
theorem imageBundle?_of_png {octets : Bytes} (h : pngMagic <+: octets) :
    imageBundle? octets = some ⟨[("image/png", .binary octets)]⟩ := by
  have hjpeg : jpegMagic.isPrefixOf octets = false := by
    obtain ⟨rest, rfl⟩ := h
    rfl
  rw [imageBundle?, sniffImage?, hjpeg, if_pos (List.isPrefixOf_iff_prefix.mpr h)]
  rfl

theorem exists_imageBundle? {octets : Bytes} (h : IsImage octets) :
    ∃ image, imageBundle? octets = some image := by
  rcases h with hjpeg | hpng
  · exact ⟨_, imageBundle?_of_jpeg hjpeg⟩
  · exact ⟨_, imageBundle?_of_png hpng⟩

theorem imageBundle?_eq_none_iff {octets : Bytes} :
    imageBundle? octets = none ↔ ¬ IsImage octets := by
  simp only [imageBundle?, sniffImage?, IsImage, List.isPrefixOf_iff_prefix, not_or]
  grind

/-! ## Offers -/

theorem Capability.mem_priority (capability : Capability) : capability ∈ priority := by
  cases capability <;> decide

namespace Offers

/-- There is a preferred offer just if there is any. -/
theorem isSome_preferred?_iff (offers : Offers) :
    offers.preferred?.isSome = true ↔ ∃ capability, (offers.render? capability).isSome = true := by
  rw [preferred?, List.isSome_findSome?, List.any_eq_true]
  constructor
  · rintro ⟨capability, -, hsome⟩
    exact ⟨capability, hsome⟩
  · rintro ⟨capability, hsome⟩
    exact ⟨capability, capability.mem_priority, hsome⟩

end Offers

/-! ## What is shown -/

namespace Representation

variable {shown : Representation}

theorem encode_of_absent (h : shown.absent = true) : shown.encode = .absent := by
  rw [encode, if_pos h]

theorem encode_eq_absent_iff (shown : Representation) :
    shown.encode = .absent ↔ shown.absent = true := by
  refine ⟨fun h => ?_, encode_of_absent⟩
  cases habsent : shown.absent with
  | true => rfl
  | false =>
      rw [encode, habsent, if_neg Bool.false_ne_true] at h
      split at h
      · cases h
      · split at h <;> cases h

theorem encode_of_image {octets : Bytes} {image : Bundle} (h : shown.absent = false)
    (hbytes : shown.bytes = some octets) (himage : imageBundle? octets = some image) :
    shown.encode = .bundle image := by
  rw [encode, h, hbytes, Option.bind_some, himage]
  rfl

/-- What is shown of a value that is neither absent nor an image. -/
theorem encode_of_no_image (h : shown.absent = false)
    (hbytes : ∀ octets ∈ shown.bytes, ¬ IsImage octets) :
    shown.encode = shown.offers.preferred?.elim (.textual shown.text) .bundle := by
  have hnone : shown.bytes.bind imageBundle? = none := by
    rw [Option.bind_eq_none_iff]
    exact fun octets hoctets => imageBundle?_eq_none_iff.mpr (hbytes octets hoctets)
  rw [encode, h, hnone]
  cases shown.offers.preferred? <;> rfl

end Representation

/-- What is shown of a value where its offers are not asked for, beside what is shown of the value
by itself. -/
structure Representation.ShownWithoutOffers (value : Representation) (shown : Rendered) : Prop where
  absent_iff : shown = .absent ↔ value.absent = true
  /-- An image is shown as it is by itself: all of its octets under its mime type. -/
  jpeg : value.absent = false → ∀ octets ∈ value.bytes, jpegMagic <+: octets →
    shown = .bundle ⟨[("image/jpeg", .binary octets)]⟩ ∧ value.encode = shown
  png : value.absent = false → ∀ octets ∈ value.bytes, pngMagic <+: octets →
    shown = .bundle ⟨[("image/png", .binary octets)]⟩ ∧ value.encode = shown
  textual : value.absent = false → (∀ octets ∈ value.bytes, ¬ IsImage octets) →
    shown = .textual value.text
  changed_iff : shown ≠ value.encode ↔
    value.absent = false ∧ (∀ octets ∈ value.bytes, ¬ IsImage octets) ∧
      ∃ capability, (value.offers.render? capability).isSome = true

namespace Representation

/-- The value with no offers. -/
def withoutOffers (value : Representation) : Representation := { value with offers := {} }

/-- Without offers, what is neither absent nor an image is shown as text. -/
theorem encode_withoutOffers {value : Representation} (h : value.absent = false)
    (hbytes : ∀ octets ∈ value.bytes, ¬ IsImage octets) :
    value.withoutOffers.encode = .textual value.text :=
  encode_of_no_image h hbytes

/-- What is absent or an image is shown alike with any offers. -/
theorem encode_eq_withoutOffers {value : Representation}
    (h : value.absent = true ∨ ∃ octets ∈ value.bytes, IsImage octets) :
    value.encode = value.withoutOffers.encode := by
  by_cases habsent : value.absent = true
  · have hbare : value.withoutOffers.encode = .absent := encode_of_absent habsent
    rw [hbare, encode_of_absent habsent]
  · obtain ⟨octets, hoctets, hbegins⟩ := h.resolve_left habsent
    obtain ⟨image, himage⟩ := exists_imageBundle? hbegins
    have hpresent : value.absent = false := eq_false_of_ne_true habsent
    have hbare : value.withoutOffers.encode = .bundle image :=
      encode_of_image hpresent hoctets himage
    rw [hbare, encode_of_image hpresent hoctets himage]

/-- Without offers the rendering is another one just if an offer was what decided it. -/
theorem encode_withoutOffers_ne_iff (value : Representation) :
    value.withoutOffers.encode ≠ value.encode ↔
      value.absent = false ∧ (∀ octets ∈ value.bytes, ¬ IsImage octets) ∧
        ∃ capability, (value.offers.render? capability).isSome = true := by
  by_cases hdecided : value.absent = true ∨ ∃ octets ∈ value.bytes, IsImage octets
  · refine iff_of_false (fun hne => hne (encode_eq_withoutOffers hdecided).symm) ?_
    rintro ⟨habsent, hbytes, -⟩
    rcases hdecided with h | ⟨octets, hoctets, hbegins⟩
    · exact Bool.false_ne_true (habsent.symm.trans h)
    · exact hbytes octets hoctets hbegins
  · have habsent : value.absent = false := eq_false_of_ne_true fun h => hdecided (.inl h)
    have hbytes : ∀ octets ∈ value.bytes, ¬ IsImage octets :=
      fun octets hoctets h => hdecided (.inr ⟨octets, hoctets, h⟩)
    rw [encode_withoutOffers habsent hbytes, encode_of_no_image habsent hbytes,
      ← Offers.isSome_preferred?_iff]
    cases value.offers.preferred? with
    | none => simp
    | some offered => exact iff_of_true Rendered.noConfusion ⟨habsent, hbytes, rfl⟩

theorem shownWithoutOffers (value : Representation) :
    value.ShownWithoutOffers value.withoutOffers.encode := by
  have himage {octets : Bytes} {image : Bundle} (h : value.absent = false)
      (hoctets : octets ∈ value.bytes) (himage : imageBundle? octets = some image) :
      value.withoutOffers.encode = .bundle image ∧
        value.encode = value.withoutOffers.encode := by
    have hbare : value.withoutOffers.encode = .bundle image :=
      encode_of_image h hoctets himage
    exact ⟨hbare, (encode_of_image h hoctets himage).trans hbare.symm⟩
  exact
    { absent_iff := encode_eq_absent_iff value.withoutOffers
      jpeg := fun h octets hoctets hjpeg => himage h hoctets (imageBundle?_of_jpeg hjpeg)
      png := fun h octets hoctets hpng => himage h hoctets (imageBundle?_of_png hpng)
      textual := encode_withoutOffers
      changed_iff := encode_withoutOffers_ne_iff value }

end Representation

/-! ## Levels -/

/-- The values of a type under a number of levels, at each of which they may be missing. -/
def Nested (α : Type) : Nat → Type
  | 0 => α
  | levels + 1 => Option (Nested α levels)

namespace Nested

variable {α : Type}

/-- A value that is missing at no level. -/
def wrap (value : α) : (levels : Nat) → Nested α levels
  | 0 => value
  | levels + 1 => some (wrap value levels)

/-- The value under all levels, unless it is missing at one of them. -/
def value? : (levels : Nat) → Nested α levels → Option α
  | 0, value => some value
  | _ + 1, none => none
  | levels + 1, some nested => value? levels nested

theorem eq_wrap_of_value? {levels : Nat} {nested : Nested α levels} {value : α}
    (h : nested.value? = some value) : nested = wrap value levels := by
  induction levels with
  | zero => exact Option.some.inj h
  | succ levels ih =>
      cases nested with
      | none => cases h
      | some nested => exact congrArg some (ih h)

variable [Represent α]

instance instRepresent : (levels : Nat) → Represent (Nested α levels)
  | 0 => inferInstanceAs (Represent α)
  | levels + 1 =>
    have := instRepresent levels
    inferInstanceAs (Represent (Option (Nested α levels)))

/-- A value that is missing is absent at every level above. -/
theorem absent_of_value? {levels : Nat} {nested : Nested α levels} (h : nested.value? = none) :
    (represent nested).absent = true := by
  induction levels with
  | zero => cases h
  | succ levels ih =>
      cases nested with
      | none => rfl
      | some nested => exact ih h

/-- Under one level or more a value loses its offers and nothing else. -/
theorem represent_wrap (value : α) (levels : Nat) :
    represent (wrap value (levels + 1)) = (represent value).withoutOffers := by
  induction levels with
  | zero => rfl
  | succ levels ih =>
      change (represent (wrap value (levels + 1))).withoutOffers = _
      rw [ih]
      rfl

/-- Under one level or more a value is shown without its offers, and nothing is shown if it is
missing at any level. -/
theorem encode_nested (levels : Nat) :
    (∀ value : α,
        (represent value).ShownWithoutOffers (encode (wrap value (levels + 1)))) ∧
      ∀ nested : Nested α (levels + 1), (∃ value, nested = wrap value (levels + 1)) ∨
        nested.value? = none ∧ encode nested = .absent := by
  constructor
  · intro value
    rw [encode, represent_wrap]
    exact (represent value).shownWithoutOffers
  · intro nested
    cases hvalue : nested.value? with
    | none => exact .inr ⟨rfl, Representation.encode_of_absent (absent_of_value? hvalue)⟩
    | some value => exact .inl ⟨value, eq_wrap_of_value? hvalue⟩

end Nested

end Cellbook
