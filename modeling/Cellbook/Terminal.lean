/-!
# Terminal text

Text in colours, and the rule that sets parts of a report apart.
-/

namespace Cellbook.Terminal

/-- How text looks. -/
inductive Style where
  | bold
  | dim
  | red
  | green
  | cyan
  deriving Repr, DecidableEq

/-- The code that makes text look so from here on. -/
def Style.code : Style → String
  | .bold => "\x1b[1m"
  | .dim => "\x1b[2m"
  | .red => "\x1b[31m"
  | .green => "\x1b[32m"
  | .cyan => "\x1b[36m"

/-- The code that ends every style. -/
def reset : String := "\x1b[0m"

/-- A text in a style. -/
def paint (style : Style) (text : String) : String := style.code ++ text ++ reset

/-- The length of a rule. -/
def ruleLength : Nat := 50

/-- A line across. -/
def rule : String := String.ofList (List.replicate ruleLength '─') ++ "\n"

end Cellbook.Terminal
