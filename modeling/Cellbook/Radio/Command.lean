/-!
# Commands

What a central can ask for, by the first octet of a write.
-/

namespace Cellbook.Radio

/-- A command of the central. -/
inductive Command where
  | stop | start | run | writeInput
  deriving Repr, DecidableEq

namespace Command

/-- The octet of a command. -/
def octet : Command → UInt8
  | .stop => 0x00
  | .start => 0x02
  | .run => 0x04
  | .writeInput => 0x06

/-- The command of an octet. -/
def ofOctet? (b : UInt8) : Option Command :=
  if b == 0x00 then some .stop
  else if b == 0x02 then some .start
  else if b == 0x04 then some .run
  else if b == 0x06 then some .writeInput
  else none

end Command

end Cellbook.Radio
