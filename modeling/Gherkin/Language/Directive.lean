import Gherkin.Text.Blank

namespace Gherkin
namespace Language

/-!
# Language directives

A directive is a line such as `# language: fr`.  Whitespace may stand around
each of its parts, and nothing else may follow the code.  No two parts share a
character with the whitespace between them, so the parts are found by reading
from left to right.
-/

/-- Whether a character may stand in the code that a directive names: an ASCII
letter or digit, a hyphen or an underscore. -/
def isCodeCharacter (character : Char) : Bool :=
  character.isAlphanum || character == '-' || character == '_'

/-- The code that a line names if it is a language directive. -/
def directive? (text : Text) : Option Text := do
  let afterMark ← ['#'].isPrefixOf? text.trimStart
  let afterWord ← "language".toList.isPrefixOf? (Text.trimStart afterMark)
  let afterColon ← [':'].isPrefixOf? (Text.trimStart afterWord)
  let code := Text.trim afterColon
  if !code.isEmpty && code.all isCodeCharacter then some code else none

end Language
end Gherkin
