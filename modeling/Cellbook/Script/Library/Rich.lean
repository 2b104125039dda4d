import Cellbook.Script.Operator

/-!
# Values built to be shown

The constructors of rich values double as methods that add a representation.  A method answers a
new value and leaves the one it was called on alone.
-/

namespace Cellbook.Script.Library

/-- The payload of a value in a mime bundle: octets as they are, anything else as text. -/
def payload : Value → Payload
  | .blob octets => .binary octets
  | value => .text value.bare

/-- The bundle of the entries of a map, in the order of their keys. -/
def bundleOf (entries : List (String × Value)) : Bundle :=
  entries.foldl (fun bundle entry => bundle.insert entry.1 (payload entry.2)) .empty

/-- Sets the representation that a constructor names; nothing where none fits. -/
def represent? (constructor : String) (argument : Value) (rich : Rich) : Option Rich :=
  let offering (offers : Offers) : Option Rich := some { rich with offers := offers }
  let offers := rich.offers
  match constructor, argument with
  | "text", .text s => some { rich with text := some s }
  | "html", .text s => offering { offers with html := some s }
  | "markdown", .text s => offering { offers with markdown := some s }
  | "svg", .text s => offering { offers with svg := some s }
  | "latex", .text s => offering { offers with latex := some s }
  | "javascript", .text s => offering { offers with javascript := some s }
  | "png", .blob octets => offering { offers with png := some octets }
  | "jpeg", .blob octets => offering { offers with jpeg := some octets }
  | "mimebundle", .map entries => offering { offers with bundle := some (bundleOf entries) }
  | _, _ => none

/-- The constructors of rich values; nothing where none fits. -/
def construct? (constructor : String) (arguments : List Value) : Option Value :=
  match arguments with
  | [argument] => (represent? constructor argument {}).map Value.rich
  | [.rich rich, argument] => (represent? constructor argument rich).map Value.rich
  | _ => none

end Cellbook.Script.Library
