import Cellbook.Text.Utf8

/-!
# Base64

The standard alphabet with padding.  Three octets become four characters; a group of one or two
octets at the end is filled with zero bits and padded with `=`.
-/

namespace Cellbook.Base64

/-- The character that stands for six bits. -/
def digit (n : Nat) : UInt8 :=
  if n < 26 then (n + 65).toUInt8
  else if n < 52 then (n - 26 + 97).toUInt8
  else if n < 62 then (n - 52 + 48).toUInt8
  else if n == 62 then '+'.toUInt8
  else '/'.toUInt8

/-- The character that fills the last group. -/
def padding : UInt8 := '='.toUInt8

/-- The encoded form of a sequence of octets. -/
def encode : Bytes → Bytes
  | [] => []
  | [a] => [digit (a.toNat / 4), digit (a.toNat % 4 * 16), padding, padding]
  | [a, b] =>
    [digit (a.toNat / 4), digit (a.toNat % 4 * 16 + b.toNat / 16), digit (b.toNat % 16 * 4), padding]
  | a :: b :: c :: rest =>
    digit (a.toNat / 4) :: digit (a.toNat % 4 * 16 + b.toNat / 16) ::
      digit (b.toNat % 16 * 4 + c.toNat / 64) :: digit (c.toNat % 64) :: encode rest

/-- Encodes octets into a buffer, from its beginning on, where the encoded form fits: answers the
buffer and how many characters of it are the encoded form. -/
def encodeInto? (octets buffer : Bytes) : Option (Bytes × Nat) :=
  let encoded := encode octets
  if encoded.length ≤ buffer.length then
    some (encoded ++ buffer.drop encoded.length, encoded.length)
  else none

/-- How many octets are encoded into one send: one line of 76 characters. -/
def lineOctets : Nat := 57

/-- How many characters a line has room for. -/
def lineWidth : Nat := 76

/-- Cuts a list into pieces of `size`, the last one possibly shorter; `pieces` bounds their
number. -/
def cutUpTo {α : Type} (size : Nat) : Nat → List α → List (List α)
  | 0, _ => []
  | _, [] => []
  | pieces + 1, items => items.take size :: cutUpTo size pieces (items.drop size)

/-- Cuts a list into pieces of `size`, the last one possibly shorter. -/
def cut {α : Type} (size : Nat) (items : List α) : List (List α) :=
  cutUpTo size items.length items

/-- The encoded form of a sequence of octets in lines, none of them with a terminator. -/
def lines (bytes : Bytes) : List Bytes :=
  (cut lineOctets bytes).map encode

end Cellbook.Base64
