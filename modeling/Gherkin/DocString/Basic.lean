import Gherkin.Line
import Gherkin.Text.Substitution

namespace Gherkin

/-!
# Doc-strings

A doc-string is a text of several lines that belongs to a step.  A separator
opens it and the same separator closes it.  Within the body the separator can be
written with a backslash before each of its characters.
-/

/-- A doc-string with its body dedented and unescaped. -/
structure DocString where
  separator : Text
  content : Text
  mediaType : Option Text
  location : Location
deriving DecidableEq

/-- The two separators between which an author can choose. -/
structure Separators where
  primary : Text
  alternative : Text
deriving DecidableEq

namespace Separators

/-- Three quotes, or three backquotes. -/
def standard : Separators :=
  ⟨"\"\"\"".toList, "```".toList⟩

/-- The separator that a trimmed text starts with.  The primary one is tried first, and
an empty one is never found. -/
def matching? (separators : Separators) (trimmed : Text) : Option Text :=
  [separators.primary, separators.alternative].find? fun separator =>
    !separator.isEmpty && separator.isPrefixOf trimmed

end Separators

namespace DocString

/-- A separator as it is written within a body. -/
def escapedSeparator (separator : Text) : Text :=
  separator.flatMap fun character => ['\\', character]

/-- Escape the separators within a line. -/
def escape (separator : Text) (line : Text) : Text :=
  Text.replaceAll separator (escapedSeparator separator) line

/-- Resolve the escaped separators within a line. -/
def unescape (separator : Text) (line : Text) : Text :=
  Text.replaceAll (escapedSeparator separator) separator line

end DocString

end Gherkin
