import Gherkin.Json.Value

namespace Gherkin
namespace Json

/-!
# Writing JSON

There are two layouts.  The compact one has no whitespace outside of strings.
The pretty one puts each item and each member on a line of its own, indented by
two spaces for each level, and writes empty lists and objects without a break.

In a string the quote, the backslash and the control characters below U+0020
are escaped, five of the latter by a letter and the others by four hexadecimal
digits.  Every other character stands for itself.
-/

/-- A hexadecimal digit, in lower case. -/
def hexDigit (value : Nat) : Char :=
  Nat.digitChar value

/-- A character as it is written within a string. -/
def escape (character : Char) : Text :=
  if character = '"' then ['\\', '"']
  else if character = '\\' then ['\\', '\\']
  else if character = '\x08' then ['\\', 'b']
  else if character = '\x09' then ['\\', 't']
  else if character = '\x0a' then ['\\', 'n']
  else if character = '\x0c' then ['\\', 'f']
  else if character = '\x0d' then ['\\', 'r']
  else if character.toNat < 0x20 then
    ['\\', 'u', '0', '0', hexDigit (character.toNat / 16), hexDigit (character.toNat % 16)]
  else [character]

/-- A text as a string literal. -/
def quote (text : Text) : Text :=
  ['"'] ++ text.flatMap escape ++ ['"']

/-- An integer in decimal digits. -/
def decimal : Int → Text
  | .ofNat size => Text.ofNat size
  | .negSucc size => ['-'] ++ Text.ofNat (size + 1)

/-- A value that is neither an array nor an object. -/
def scalar : Json → Text
  | null => "null".toList
  | bool true => "true".toList
  | bool false => "false".toList
  | number value => decimal value
  | string value => quote value
  | array _ => []
  | object _ => []

mutual

/-- A value without any whitespace outside of strings. -/
def compact : Json → Text
  | array items => ['['] ++ compactItems items ++ [']']
  | object members => ['{'] ++ compactMembers members ++ ['}']
  | value => scalar value

/-- The items of an array, separated by commas. -/
def compactItems : List Json → Text
  | [] => []
  | [item] => compact item
  | item :: next :: rest => compact item ++ [','] ++ compactItems (next :: rest)

/-- The members of an object, separated by commas. -/
def compactMembers : List (Text × Json) → Text
  | [] => []
  | [(key, value)] => quote key ++ [':'] ++ compact value
  | (key, value) :: next :: rest =>
    quote key ++ [':'] ++ compact value ++ [','] ++ compactMembers (next :: rest)

end

/-- A line break and the indentation of the given level. -/
def lineBreak (level : Nat) : Text :=
  ['\n'] ++ List.replicate (2 * level) ' '

mutual

/-- A value over several lines, where the closing bracket is indented by `level`. -/
def prettyAt (level : Nat) : Json → Text
  | array items =>
    if items.isEmpty then ['[', ']']
    else ['['] ++ prettyItems (level + 1) items ++ lineBreak level ++ [']']
  | object members =>
    if members.isEmpty then ['{', '}']
    else ['{'] ++ prettyMembers (level + 1) members ++ lineBreak level ++ ['}']
  | value => scalar value

/-- The items of an array, each on a line of its own. -/
def prettyItems (level : Nat) : List Json → Text
  | [] => []
  | [item] => lineBreak level ++ prettyAt level item
  | item :: next :: rest =>
    lineBreak level ++ prettyAt level item ++ [','] ++ prettyItems level (next :: rest)

/-- The members of an object, each on a line of its own. -/
def prettyMembers (level : Nat) : List (Text × Json) → Text
  | [] => []
  | [(key, value)] => lineBreak level ++ quote key ++ [':', ' '] ++ prettyAt level value
  | (key, value) :: next :: rest =>
    lineBreak level ++ quote key ++ [':', ' '] ++ prettyAt level value ++ [','] ++
      prettyMembers level (next :: rest)

end

/-- A value over several lines, without a newline at the end. -/
def pretty (value : Json) : Text :=
  prettyAt 0 value

end Json
end Gherkin
