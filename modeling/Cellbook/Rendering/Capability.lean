import Cellbook.Rendering.Bundle

/-!
# Capabilities

The kinds of rich representation a value may offer, and the order in which they are preferred.
-/

namespace Cellbook

/-- A kind of rich representation. -/
inductive Capability where
  | mimeBundle | html | markdown | svg | png | jpeg | latex | javascript
  deriving Repr, DecidableEq

namespace Capability

/-- The order of preference; the first kind that a value offers is the one shown. -/
def priority : List Capability :=
  [.mimeBundle, .html, .markdown, .svg, .png, .jpeg, .latex, .javascript]

/-- The mime type of a kind that is one representation. -/
def mime? : Capability → Option String
  | .mimeBundle => none
  | .html => some "text/html"
  | .markdown => some "text/markdown"
  | .svg => some "image/svg+xml"
  | .png => some "image/png"
  | .jpeg => some "image/jpeg"
  | .latex => some "text/latex"
  | .javascript => some "application/javascript"

end Capability

/-- The rich representations a value offers. -/
structure Offers where
  bundle : Option Bundle := none
  html : Option String := none
  markdown : Option String := none
  svg : Option String := none
  png : Option Bytes := none
  jpeg : Option Bytes := none
  latex : Option String := none
  javascript : Option String := none
  deriving Repr, DecidableEq

namespace Offers

/-- The payload offered under a kind that is one representation. -/
def payload? (offers : Offers) : Capability → Option Payload
  | .mimeBundle => none
  | .html => offers.html.map .text
  | .markdown => offers.markdown.map .text
  | .svg => offers.svg.map .text
  | .png => offers.png.map .binary
  | .jpeg => offers.jpeg.map .binary
  | .latex => offers.latex.map .text
  | .javascript => offers.javascript.map .text

/-- The bundle offered under a kind: the value's own, or the one representation by itself. -/
def render? (offers : Offers) (capability : Capability) : Option Bundle :=
  match capability.mime? with
  | none => offers.bundle
  | some mime => (offers.payload? capability).map (Bundle.single mime)

/-- The bundle of the preferred kind, if any kind is offered. -/
def preferred? (offers : Offers) : Option Bundle :=
  Capability.priority.findSome? offers.render?

end Offers

end Cellbook
