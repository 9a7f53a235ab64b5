import Gherkin.Comment
import Gherkin.Feature

namespace Gherkin

/-!
# Documents

A document is what one feature file holds: its comments and at most one
feature.
-/

/-- The content of a feature file. -/
structure Document where
  uri : Text
  comments : List Comment
  feature : Option Feature
deriving DecidableEq

end Gherkin
