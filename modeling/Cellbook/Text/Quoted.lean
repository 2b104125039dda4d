import Cellbook.Text.Property

/-!
# Quoted text

The form in which strings and characters are shown: between quotes, with the quote and the
backslash escaped, the common controls named, and every code point that has no visible form of its
own, or that would attach to its neighbour, written as a number in braces.
-/

namespace Cellbook.Text

/-- The lower-case hexadecimal digits of a number, most significant first. -/
def hexDigits (n : Nat) : List Char :=
  Nat.toDigits 16 n

/-- Whether a character has no visible form of its own, or attaches to its neighbour as a mark. -/
def isHidden (c : Char) : Bool :=
  (isGraphemeExtending c && !isVoicingMark c) || isUnprintable c || isFiller c

/-- The shown form of one character between quotes of the given kind. -/
def escapeFor (quote c : Char) : List Char :=
  if c == quote || c == '\\' then ['\\', c]
  else if c.toNat == 0 then ['\\', '0']
  else if c == '\t' then ['\\', 't']
  else if c == '\n' then ['\\', 'n']
  else if c == '\r' then ['\\', 'r']
  else if isHidden c then
    '\\' :: 'u' :: '\x7b' :: hexDigits c.toNat ++ ['\x7d']
  else [c]

/-- A text between double quotes. -/
def quote (text : String) : String :=
  String.ofList ('"' :: text.toList.flatMap (escapeFor '"') ++ ['"'])

/-- A character between single quotes. -/
def quoteChar (c : Char) : String :=
  String.ofList ('\'' :: escapeFor '\'' c ++ ['\''])

end Cellbook.Text
