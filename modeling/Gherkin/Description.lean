import Gherkin.Line
import Gherkin.Text.Lines

namespace Gherkin

/-!
# Descriptions

Free lines may follow the line that opens a construct.  They keep their
indentation and lose the whitespace at their ends.  Blank lines before and
behind them are no part of the description.
-/

/-- A description in progress.  The last line read comes first. -/
abbrev Description.Draft := List Text

namespace Description.Draft

/-- Read a further line. -/
def add (draft : Description.Draft) (line : Line) : Description.Draft :=
  line.text.trimEnd :: draft

/-- The description, if there is any line that is not blank. -/
def finish (draft : Description.Draft) : Option Text :=
  match Text.innerLines draft.reverse with
  | [] => none
  | first :: rest => some (Text.joinLines (first :: rest))

end Description.Draft

end Gherkin
