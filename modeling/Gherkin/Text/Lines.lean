import Gherkin.Text.Blank

namespace Gherkin
namespace Text

/-!
# Texts of several lines

A text of several lines keeps a newline between each two of them and none at
its end.  A written file differs: there every line is ended by a newline.  The
two forms have separate functions, `joinLines` and `endLines`.
-/

/-- The lines of a text, cut at its newlines.  There is always at least one. -/
def lines (text : Text) : List Text :=
  text.splitOn '\n'

/-- One text out of lines, with a newline between each two. -/
def joinLines (parts : List Text) : Text :=
  ['\n'].intercalate parts

/-- One text out of lines, each ended by a newline. -/
def endLines (parts : List Text) : Text :=
  parts.flatMap fun part => part ++ ['\n']

/-- The lines from the first to the last that is not blank. -/
def innerLines (parts : List Text) : List Text :=
  ((parts.dropWhile isBlank).reverse.dropWhile isBlank).reverse

end Text
end Gherkin
