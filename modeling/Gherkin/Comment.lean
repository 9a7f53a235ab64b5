import Gherkin.Line

namespace Gherkin

/-!
# Comments

A comment takes a line of its own and is kept with its indentation and mark.
-/

/-- A comment line. -/
structure Comment where
  text : Text
  location : Location
deriving DecidableEq

/-- The comment on a line.  A carriage return that ends the line is no part of it. -/
def Comment.onLine (line : Line) : Comment :=
  ⟨(['\r'].isSuffixOf? line.text).getD line.text, line.locationAt 0⟩

end Gherkin
