import Gherkin.Text.Basic

namespace Gherkin
namespace Text

/-!
# Blank characters and trimming

A character is blank when Unicode gives it the property `White_Space`.  The
property is a fixed table, and the same table decides what is trimmed, what
counts as indentation and which lines are blank.  It leaves out the control
characters U+001C to U+001F, the zero-width space and the byte-order mark.
-/

/-- The scalar values with the property `White_Space`, as closed ranges. -/
def spaceRanges : List (Nat × Nat) :=
  [(0x0009, 0x000D), (0x0020, 0x0020), (0x0085, 0x0085), (0x00A0, 0x00A0),
    (0x1680, 0x1680), (0x2000, 0x200A), (0x2028, 0x2029), (0x202F, 0x202F),
    (0x205F, 0x205F), (0x3000, 0x3000)]

/-- Whether a character is whitespace. -/
def isSpace (character : Char) : Bool :=
  spaceRanges.any fun range =>
    decide (range.1 ≤ character.toNat) && decide (character.toNat ≤ range.2)

/-- A blank text has no character other than whitespace; it may be empty. -/
def isBlank (text : Text) : Bool :=
  text.all isSpace

/-- The text from its first non-whitespace character on. -/
def trimStart (text : Text) : Text :=
  text.dropWhile isSpace

/-- The text up to its last non-whitespace character. -/
def trimEnd (text : Text) : Text :=
  (text.reverse.dropWhile isSpace).reverse

/-- The text without the whitespace around it. -/
def trim (text : Text) : Text :=
  trimEnd (trimStart text)

/-- The number of leading whitespace characters. -/
def indent (text : Text) : Nat :=
  (text.takeWhile isSpace).length

/-- The text without its leading whitespace, of which at most `count` characters
are taken away. -/
def unindent : Nat → Text → Text
  | 0, text => text
  | _ + 1, [] => []
  | count + 1, first :: rest => if isSpace first then unindent count rest else first :: rest

end Text
end Gherkin
