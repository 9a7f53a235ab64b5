import Gherkin.Keyword

namespace Gherkin

/-!
# Headings

Features, backgrounds, scenarios and examples blocks open with a line of one
form: a keyword, a colon and a name, which may be empty.
-/

/-- The line that opens a construct.  The keyword is kept as it was written, without
the colon behind it. -/
structure Heading where
  keyword : Text
  name : Text
  location : Location
deriving DecidableEq

/-- The heading on a line. -/
def Heading.onLine (language : Language) (line : Line) : Heading :=
  let classification := line.classify language
  ⟨classification.keyword, line.textAfter classification, line.location⟩

end Gherkin
