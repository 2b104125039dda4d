/-!
# Addresses

Tells whether a text is the address of a host, as it stands in front of a port: four numbers with
dots between them, or an address of eight groups between brackets.
-/

namespace Cellbook.Server

/-- Reads one certain character. -/
def expectChar (c : Char) (text : List Char) : Option (List Char) :=
  match text with
  | [] => none
  | first :: rest => if first == c then some rest else none

/-- Whether a character is a hexadecimal digit. -/
def isHexDigit (c : Char) : Bool := c.isDigit || ('a' ≤ c && c ≤ 'f') || ('A' ≤ c && c ≤ 'F')

/-- The number that decimal digits write. -/
def decimalValue (digits : List Char) : Nat :=
  digits.foldl (fun value c => value * 10 + (c.toNat - '0'.toNat)) 0

/-- Reads a number up to 255 without zeros in front. -/
def scanOctet (text : List Char) : Option (List Char) :=
  let digits := text.takeWhile Char.isDigit
  if digits.isEmpty || 3 < digits.length || 255 < decimalValue digits ||
      (digits.head? == some '0' && 1 < digits.length) then none
  else some (text.dropWhile Char.isDigit)

/-- Reads four numbers with dots between them. -/
def scanDotted (text : List Char) : Option (List Char) := do
  let text ← scanOctet text
  let text ← scanOctet (← expectChar '.' text)
  let text ← scanOctet (← expectChar '.' text)
  scanOctet (← expectChar '.' text)

/-- Reads one to four hexadecimal digits. -/
def scanGroup (text : List Char) : Option (List Char) :=
  let digits := text.takeWhile isHexDigit
  if digits.isEmpty || 4 < digits.length then none else some (text.dropWhile isHexDigit)

/-- Reads the colon between groups, which none precedes. -/
def scanBetween (first : Bool) (text : List Char) : Option (List Char) :=
  if first then some text else expectChar ':' text

/-- Groups that were read: how many, whether a dotted address stands for the last two, and what is
left. -/
structure Groups where
  count : Nat
  dotted : Bool
  rest : List Char

/-- Reads up to `room` groups; a dotted address may stand for two of them, and ends them. -/
def scanGroups (count : Nat) : Nat → List Char → Groups
  | 0, text => ⟨count, false, text⟩
  | room + 1, text =>
    let between := scanBetween (count == 0) text
    let dotted := if room == 0 then none else between.bind scanDotted
    match dotted, between.bind scanGroup with
    | some rest, _ => ⟨count + 2, true, rest⟩
    | none, some rest => scanGroups (count + 1) room rest
    | none, none => ⟨count, false, text⟩

/-- The number of groups in an address. -/
def groupCount : Nat := 8

/-- Reads an address of groups.  Two colons stand for one group of zeros or more, once. -/
def scanGrouped (text : List Char) : Option (List Char) :=
  let front := scanGroups 0 groupCount text
  if front.count == groupCount then some front.rest
  else if front.dotted then none
  else do
    let text ← expectChar ':' front.rest
    let text ← expectChar ':' text
    return (scanGroups 0 (groupCount - (front.count + 1)) text).rest

/-- The largest number of a zone. -/
def lastZone : Nat := 4294967295

/-- Reads the zone of an address, if there is one. -/
def scanZone (text : List Char) : List Char :=
  match expectChar '%' text with
  | none => text
  | some rest =>
    let digits := rest.takeWhile Char.isDigit
    if digits.isEmpty || lastZone < decimalValue digits then text
    else rest.dropWhile Char.isDigit

/-- Reads an address of groups between brackets. -/
def scanBracketed (text : List Char) : Option (List Char) := do
  let text ← expectChar '[' text
  let text ← scanGrouped text
  expectChar ']' (scanZone text)

/-- Whether a text is the address of a host. -/
def isHostAddress (host : String) : Bool :=
  scanDotted host.toList == some [] || scanBracketed host.toList == some []

end Cellbook.Server
