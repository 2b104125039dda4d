import Cellbook.Text.Utf8

/-!
# Percent encoding

A percent sign and two hexadecimal digits stand for an octet.  A percent sign that is not followed
by two digits stands for itself.
-/

namespace Cellbook.Http

/-- The value of a hexadecimal digit. -/
def hexDigitValue? (b : UInt8) : Option UInt8 :=
  if 0x30 ≤ b && b ≤ 0x39 then some (b - 0x30)
  else if 0x41 ≤ b && b ≤ 0x46 then some (b - 0x37)
  else if 0x61 ≤ b && b ≤ 0x66 then some (b - 0x57)
  else none

/-- Reads percent signs with their digits as octets. -/
def percentDecode : Bytes → Bytes
  | [] => []
  | b :: high :: low :: rest =>
    match hexDigitValue? high, hexDigitValue? low with
    | some h, some l =>
      if b == '%'.toUInt8 then (h * 16 + l) :: percentDecode rest
      else b :: percentDecode (high :: low :: rest)
    | _, _ => b :: percentDecode (high :: low :: rest)
  | b :: rest => b :: percentDecode rest

end Cellbook.Http
