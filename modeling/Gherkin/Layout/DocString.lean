import Gherkin.DocString.Basic
import Gherkin.Text.Lines

namespace Gherkin
namespace DocString

/-!
# Written doc-strings

The separators and the lines of the content are indented alike.  Blank lines
are an exception and are written as they are, since reading takes no
indentation away from them.  Empty content has no line at all.
-/

/-- The lines of the content of a doc-string. -/
def contentLines (docString : DocString) : List Text :=
  if docString.content.isEmpty then [] else Text.lines docString.content

/-- A line of the content as it is written. -/
def writtenLine (indent : Nat) (separator line : Text) : Text :=
  if line.isBlank then line else List.replicate indent ' ' ++ escape separator line

/-- The lines of a doc-string, indented by `indent` spaces. -/
def layout (indent : Nat) (docString : DocString) : List Text :=
  let margin := List.replicate indent ' '
  [margin ++ docString.separator ++ docString.mediaType.getD []] ++
    (contentLines docString).map (writtenLine indent docString.separator) ++
    [margin ++ docString.separator]

end DocString
end Gherkin
