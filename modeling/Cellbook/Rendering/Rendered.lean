import Cellbook.Channel.Basic
import Cellbook.Decimal.Layout
import Cellbook.Rendering.Capability
import Cellbook.Text.Quoted

/-!
# Rendered results

What is shown of the result of a cell.  `encode` decides, in this order: an absent value shows
nothing; bytes that begin as an image does are that image; otherwise the preferred offer of the
value is shown, and failing all offers its text.

A value takes part by `Represent`, which says what it shows: a text, whether it is absent, the
bytes behind it, and its offers.
-/

namespace Cellbook

/-- What a value has to show. -/
structure Representation where
  /-- The text shown when nothing richer is offered. -/
  text : String
  /-- Whether there is no value. -/
  absent : Bool := false
  /-- The bytes behind the value. -/
  bytes : Option Bytes := none
  /-- Its rich representations. -/
  offers : Offers := {}

/-- Values that can be shown. -/
class Represent (α : Type) where
  represent : α → Representation

export Represent (represent)

instance : Represent Representation := ⟨id⟩

instance : Represent Unit := ⟨fun _ => { text := "", absent := true }⟩

instance : Represent String := ⟨fun text => { text := Text.quote text }⟩

instance : Represent Int := ⟨fun n => { text := toString n }⟩

instance : Represent Float := ⟨fun x => { text := Decimal.plain.write x }⟩

instance : Represent Bool := ⟨fun b => { text := if b then "true" else "false" }⟩

/-- The numbers of a byte sequence between brackets. -/
def listOctets (bytes : Bytes) : String :=
  "[" ++ ", ".intercalate (bytes.map fun b => toString b.toNat) ++ "]"

instance : Represent Bytes := ⟨fun bytes => { text := listOctets bytes, bytes := some bytes }⟩

/-- A value that may be missing shows the text and the bytes of the value, but none of its offers;
a missing value is absent. -/
instance {α : Type} [Represent α] : Represent (Option α) where
  represent
    | none => { text := "", absent := true }
    | some value =>
      let inner := represent value
      { text := inner.text, absent := inner.absent, bytes := inner.bytes }

/-- How every JPEG file begins. -/
def jpegMagic : Bytes := [0xff, 0xd8]

/-- How every PNG file begins. -/
def pngMagic : Bytes := [0x89, 0x50, 0x4e, 0x47, 0x0d, 0x0a, 0x1a, 0x0a]

/-- The mime type of the image that the bytes begin as. -/
def sniffImage? (bytes : Bytes) : Option String :=
  if jpegMagic.isPrefixOf bytes then some "image/jpeg"
  else if pngMagic.isPrefixOf bytes then some "image/png"
  else none

/-- What is shown of one result. -/
inductive Rendered where
  /-- Nothing. -/
  | absent
  /-- A text. -/
  | textual (text : String)
  /-- Representations by mime type. -/
  | bundle (bundle : Bundle)
  deriving Repr, DecidableEq

/-- The image that bytes begin as, by itself. -/
def imageBundle? (bytes : Bytes) : Option Bundle :=
  (sniffImage? bytes).map fun mime => Bundle.single mime (.binary bytes)

/-- Decides what is shown of a value. -/
def Representation.encode (shown : Representation) : Rendered :=
  if shown.absent then .absent
  else
    match shown.bytes.bind imageBundle? with
    | some image => .bundle image
    | none =>
      match shown.offers.preferred? with
      | some offered => .bundle offered
      | none => .textual shown.text

/-- Decides what is shown of a value. -/
def encode {α : Type} [Represent α] (value : α) : Rendered :=
  (represent value).encode

/-- The written form of what is shown, one JSON value cut into sends; nothing for an absent one. -/
def Rendered.sends : Rendered → List Bytes
  | .absent => []
  | .textual text => [Text.encode (Json.quote text)]
  | .bundle shown => shown.sends

/-- Writes what is shown onto a channel. -/
def Rendered.writeTo {σ : Type} (rendered : Rendered) (channel : Channel σ) (state : σ) :
    σ × SendOutcome :=
  channel.sendAll state rendered.sends

end Cellbook
