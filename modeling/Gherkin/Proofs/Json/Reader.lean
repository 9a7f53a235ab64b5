import Gherkin.Json.Value
import Gherkin.Text.Blank

namespace Gherkin
namespace Json

/-!
# Reading JSON

A reader for JSON texts from any source.  It knows nothing of how the texts of this library
are written.

The text is first cut into tokens, with whitespace allowed around each of them, and the tokens
are then read by a machine that keeps a stack of the arrays and objects that are still open.
Both parts refuse what is not JSON.  A literal may name any character by its code units in
UTF-16; a surrogate without its partner is refused.  Numbers with a fraction or an exponent are
refused as well, because values have integers only.  The members of an object are listed as
they stand in the text.
-/

/-- Whitespace that may stand between tokens. -/
def isSpace (character : Char) : Bool :=
  character = ' ' || character = '\t' || character = '\n' || character = '\r'

/-! ## Numbers -/

/-- A natural number in decimal digits, where only zero itself starts with a zero. -/
def natural? (digits : Text) : Option Nat :=
  if digits ≠ [] ∧ digits.all Char.isDigit ∧ (digits.head? = some '0' → digits = ['0']) then
    some (Nat.ofDigitChars 10 digits 0)
  else none

/-- An integer, which may have a minus sign. -/
def integer? : Text → Option Int
  | [] => none
  | first :: rest =>
    if first = '-' then (natural? rest).map fun size => -(size : Int)
    else (natural? (first :: rest)).map Int.ofNat

/-! ## String literals -/

/-- What stands for one UTF-16 code unit or for one character within a literal. -/
inductive Piece
  | character (value : Char)
  | unit (value : Nat)

/-- The value of a hexadecimal digit in either case. -/
def hexValue? (digit : Char) : Option Nat :=
  if '0' ≤ digit ∧ digit ≤ '9' then some (digit.toNat - '0'.toNat)
  else if 'a' ≤ digit ∧ digit ≤ 'f' then some (digit.toNat - 'a'.toNat + 10)
  else if 'A' ≤ digit ∧ digit ≤ 'F' then some (digit.toNat - 'A'.toNat + 10)
  else none

/-- The number that hexadecimal digits stand for. -/
def hexNumber? (digits : Text) : Option Nat :=
  digits.foldlM (fun number digit => (hexValue? digit).map (16 * number + ·)) 0

/-- The character that a backslash and a letter stand for. -/
def unescaped? (letter : Char) : Option Char :=
  if letter = '"' ∨ letter = '\\' ∨ letter = '/' then some letter
  else if letter = 'b' then some '\x08'
  else if letter = 'f' then some '\x0c'
  else if letter = 'n' then some '\x0a'
  else if letter = 'r' then some '\x0d'
  else if letter = 't' then some '\x09'
  else none

/-- The pieces of a literal, which is given without the quotes around it.  Neither a quote nor a
control character below U+0020 may stand for itself. -/
def pieces? : Text → Option (List Piece)
  | [] => some []
  | '\\' :: 'u' :: first :: second :: third :: fourth :: rest => do
    let unit ← hexNumber? [first, second, third, fourth]
    return .unit unit :: (← pieces? rest)
  | '\\' :: letter :: rest => do
    let character ← unescaped? letter
    return .character character :: (← pieces? rest)
  | character :: rest =>
    if character = '"' ∨ character = '\\' ∨ character.toNat < 0x20 then none
    else (pieces? rest).map (.character character :: ·)

/-- A code unit that starts a pair. -/
def isHighSurrogate (unit : Nat) : Bool :=
  0xD800 ≤ unit && unit < 0xDC00

/-- A code unit that ends a pair. -/
def isLowSurrogate (unit : Nat) : Bool :=
  0xDC00 ≤ unit && unit < 0xE000

/-- The text that pieces stand for, where two surrogates make one character. -/
def joined? : List Piece → Option Text
  | [] => some []
  | .character value :: rest => (joined? rest).map (value :: ·)
  | .unit high :: .unit low :: rest =>
    if isHighSurrogate high ∧ isLowSurrogate low then
      (joined? rest).map (Char.ofNat (0x10000 + 0x400 * (high - 0xD800) + (low - 0xDC00)) :: ·)
    else if isHighSurrogate high ∨ isLowSurrogate high then none
    else (joined? (.unit low :: rest)).map (Char.ofNat high :: ·)
  | .unit value :: rest =>
    if isHighSurrogate value ∨ isLowSurrogate value then none
    else (joined? rest).map (Char.ofNat value :: ·)

/-- The text of a literal, which is given without the quotes around it. -/
def unquoted? (literal : Text) : Option Text :=
  (pieces? literal).bind joined?

/-! ## Tokens -/

/-- What a JSON text is made of, apart from whitespace. -/
inductive Token
  | openArray
  | closeArray
  | openObject
  | closeObject
  | comma
  | colon
  | null
  | bool (value : Bool)
  | number (value : Int)
  | string (value : Text)

/-- The token of a single character. -/
def mark? (character : Char) : Option Token :=
  if character = '[' then some .openArray
  else if character = ']' then some .closeArray
  else if character = '\x7b' then some .openObject
  else if character = '\x7d' then some .closeObject
  else if character = ',' then some .comma
  else if character = ':' then some .colon
  else none

/-- The token of characters that are neither marks nor within quotes. -/
def word? (read : Text) : Option Token :=
  if read = "null".toList then some .null
  else if read = "true".toList then some (.bool true)
  else if read = "false".toList then some (.bool false)
  else (integer? read).map .number

/-- What is being read, with the characters of it that have been read so far. -/
inductive Scan
  | between
  | word (read : Text)
  | quoted (read : Text)
  | escaped (read : Text)

namespace Scan

/-- What a character between two tokens leads to, and the tokens that it ends. -/
def start (character : Char) : List Token × Scan :=
  if isSpace character then ([], between)
  else if character = '"' then ([], quoted [])
  else match mark? character with
    | some token => ([token], between)
    | none => ([], word [character])

/-- Whether a character goes on with a word. -/
def isPlain (character : Char) : Bool :=
  !isSpace character && character ≠ '"' && (mark? character).isNone

/-- What a character leads to, and the tokens that it ends. -/
def next : Scan → Char → Option (List Token × Scan)
  | between, character => some (start character)
  | word read, character =>
    if isPlain character then some ([], word (read ++ [character]))
    else (word? read).map fun token => (token :: (start character).1, (start character).2)
  | quoted read, character =>
    if character = '"' then (unquoted? read).map fun value => ([.string value], between)
    else if character = '\\' then some ([], escaped read)
    else some ([], quoted (read ++ [character]))
  | escaped read, character => some ([], quoted (read ++ ['\\', character]))

/-- The tokens that the end of the text ends. -/
def finish : Scan → Option (List Token)
  | between => some []
  | word read => (word? read).map ([·])
  | quoted _ => none
  | escaped _ => none

/-- The tokens of what is left of a text. -/
def tokens? : Scan → Text → Option (List Token)
  | scan, [] => scan.finish
  | scan, first :: rest =>
    (scan.next first).bind fun (ended, following) => (following.tokens? rest).map (ended ++ ·)

end Scan

/-! ## Values -/

/-- An array or an object that is still open, with what has been read of it. -/
inductive Frame
  | array (items : List Json)
  | object (members : List (Text × Json)) (key : Text)

/-- What may come next: a value, the first item or the end of an array, the first member or the
end of an object, a further key, the colon behind a key, or whatever follows a value. -/
inductive Stage
  | value
  | item
  | member
  | key (members : List (Text × Json))
  | colon (members : List (Text × Json)) (key : Text)
  | behind (value : Json)

/-- A state of the reader, with the innermost open array or object first. -/
structure Progress where
  frames : List Frame
  stage : Stage

namespace Progress

/-- A token where a value starts. -/
def begin (frames : List Frame) : Token → Option Progress
  | .null => some ⟨frames, .behind null⟩
  | .bool value => some ⟨frames, .behind (bool value)⟩
  | .number value => some ⟨frames, .behind (number value)⟩
  | .string value => some ⟨frames, .behind (string value)⟩
  | .openArray => some ⟨frames, .item⟩
  | .openObject => some ⟨frames, .member⟩
  | _ => none

/-- A token behind a value. -/
def proceed (value : Json) : List Frame → Token → Option Progress
  | .array items :: frames, .comma => some ⟨.array (items ++ [value]) :: frames, .value⟩
  | .array items :: frames, .closeArray => some ⟨frames, .behind (array (items ++ [value]))⟩
  | .object members key :: frames, .comma => some ⟨frames, .key (members ++ [(key, value)])⟩
  | .object members key :: frames, .closeObject =>
    some ⟨frames, .behind (object (members ++ [(key, value)]))⟩
  | _, _ => none

/-- One token. -/
def step : Progress → Token → Option Progress
  | ⟨frames, .value⟩, token => begin frames token
  | ⟨frames, .item⟩, .closeArray => some ⟨frames, .behind (array [])⟩
  | ⟨frames, .item⟩, token => begin (.array [] :: frames) token
  | ⟨frames, .member⟩, .closeObject => some ⟨frames, .behind (object [])⟩
  | ⟨frames, .member⟩, .string key => some ⟨frames, .colon [] key⟩
  | ⟨frames, .key members⟩, .string key => some ⟨frames, .colon members key⟩
  | ⟨frames, .colon members key⟩, .colon => some ⟨.object members key :: frames, .value⟩
  | ⟨frames, .behind value⟩, token => proceed value frames token
  | _, _ => none

/-- Several tokens. -/
def run (progress : Progress) (tokens : List Token) : Option Progress :=
  tokens.foldlM step progress

/-- The value that has been read, if nothing is open any more. -/
def result? : Progress → Option Json
  | ⟨[], .behind value⟩ => some value
  | _ => none

end Progress

/-- The value that tokens stand for. -/
def value? (tokens : List Token) : Option Json :=
  (Progress.run ⟨[], .value⟩ tokens).bind Progress.result?

/-- The value of a JSON text. -/
def read (text : Text) : Option Json :=
  (Scan.between.tokens? text).bind value?

/-- Every part of the format that the texts of this library make no use of is read as well. -/
example : read "\t[ -20,\r\"\\u00e9\\/\\uD83D\\ude00\" , \x7b\x7d]".toList =
    some (array [number (-20), string "é/😀".toList, object []]) := by
  cbv

/-! ## Whitespace outside of literals -/

/-- Where a character of a JSON text stands. -/
inductive Side
  | outside
  | inside
  | escaped
deriving DecidableEq

namespace Side

/-- Where the character behind the given one stands. -/
def next : Side → Char → Side
  | outside, character => if character = '"' then inside else outside
  | inside, character =>
    if character = '"' then outside else if character = '\\' then escaped else inside
  | escaped, _ => inside

/-- What is left of a text without the whitespace outside of its literals. -/
def squeeze : Side → Text → Text
  | _, [] => []
  | side, first :: rest =>
    if side = outside ∧ Text.isSpace first then squeeze outside rest
    else first :: squeeze (side.next first) rest

end Side

/-- A JSON text without the whitespace outside of string literals. -/
def squeeze (text : Text) : Text :=
  Side.outside.squeeze text

end Json
end Gherkin
