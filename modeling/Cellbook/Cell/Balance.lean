/-!
# Balance

Whether a source text closes all that it opens.  The text is read from left to right as string
literals, comments and ordinary characters, and only ordinary brackets count.

* A string literal opens with a double quote, a single quote or a backtick and ends with the next
  one of its kind; a backslash takes the character after it along.
* A line comment ends after its newline or with the text.  A block comment ends with the first
  closing mark after its opening mark; block comments do not nest.
* The kinds of brackets are not told apart, and a closing bracket with nothing to close is forgiven.
-/

namespace Cellbook.Cell

/-- Where in a source text a character stands. -/
inductive Place where
  /-- Outside strings and comments. -/
  | code
  /-- In a string literal that `quote` ends. -/
  | literal (quote : Char)
  /-- In a comment that the line ends. -/
  | lineComment
  /-- In a comment that a closing mark ends. -/
  | blockComment
  deriving Repr, DecidableEq

/-- The characters that open and end a string literal. -/
def isQuote (c : Char) : Bool := c == '"' || c == '\'' || c == '`'

/-- The brackets that open. -/
def isOpening (c : Char) : Bool := c == '(' || c == '[' || c == '{'

/-- The brackets that close. -/
def isClosing (c : Char) : Bool := c == ')' || c == ']' || c == '}'

/-- The number of open brackets after an ordinary character. -/
def depthAfter (depth : Nat) (c : Char) : Nat :=
  if isOpening c then depth + 1 else if isClosing c then depth - 1 else depth

/-- The number of brackets left open at the end of a text read from a place on; nothing where the
text ends inside a string literal or a block comment. -/
def depthFrom : Place → Nat → List Char → Option Nat
  | .code, depth, [] => some depth
  | .code, depth, '/' :: '/' :: rest => depthFrom .lineComment depth rest
  | .code, depth, '/' :: '*' :: rest => depthFrom .blockComment depth rest
  | .code, depth, c :: rest =>
    if isQuote c then depthFrom (.literal c) depth rest
    else depthFrom .code (depthAfter depth c) rest
  | .literal _, _, [] => none
  | .literal _, _, ['\\'] => none
  | .literal quote, depth, '\\' :: _ :: rest => depthFrom (.literal quote) depth rest
  | .literal quote, depth, c :: rest =>
    depthFrom (if c == quote then .code else .literal quote) depth rest
  | .lineComment, depth, [] => some depth
  | .lineComment, depth, c :: rest =>
    depthFrom (if c == '\n' then .code else .lineComment) depth rest
  | .blockComment, _, [] => none
  | .blockComment, depth, '*' :: '/' :: rest => depthFrom .code depth rest
  | .blockComment, depth, _ :: rest => depthFrom .blockComment depth rest

/-- A quote opens a string literal. -/
theorem depthFrom_quote {quote : Char} (h : isQuote quote = true) (depth : Nat)
    (rest : List Char) :
    depthFrom .code depth (quote :: rest) = depthFrom (.literal quote) depth rest := by
  rw [depthFrom]
  · rw [if_pos h]
  · rintro more rfl
    exact absurd h (by decide)
  · rintro more rfl
    exact absurd h (by decide)

/-- Whether a text closes every bracket, string literal and block comment it opens. -/
def isBalanced (text : List Char) : Bool := depthFrom .code 0 text == some 0

end Cellbook.Cell
