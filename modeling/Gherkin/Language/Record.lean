import Gherkin.Json.Printer
import Gherkin.Language.Basic
import Gherkin.Text.Visible

namespace Gherkin

/-!
# Languages as JSON records

A language can be given as a JSON object with one member for each list of
words.  The code may be left out and is then empty; members of other names are
ignored.  Of several faults in a record the one reported is found as follows:
a value of the wrong kind comes before a missing member, wrong values are
looked for in the alphabetical order of their keys, and missing members in the
order in which a record is written.
-/

/-- What is wrong with a record. -/
inductive RecordFault
  /-- A required member is missing. -/
  | missing (key : Text)
  /-- A text was expected, and the value found is none. -/
  | notText (found : Json)
  /-- A list was expected, and the value found is none. -/
  | notList (found : Json)

namespace RecordFault

/-- A character as it is shown within quotes. -/
def showCharacter (character : Char) : Text :=
  if character = '"' then ['\\', '"']
  else if character = '\\' then ['\\', '\\']
  else if character = '\x00' then ['\\', '0']
  else if character = '\x09' then ['\\', 't']
  else if character = '\x0a' then ['\\', 'n']
  else if character = '\x0d' then ['\\', 'r']
  else if Text.isHidden character then
    ['\\', 'u', '{'] ++ Nat.toDigits 16 character.toNat ++ ['}']
  else [character]

/-- A text in quotes, in which hidden characters are shown by number. -/
def showText (text : Text) : Text :=
  ['"'] ++ text.flatMap showCharacter ++ ['"']

/-- What kind of value was found; short values are shown. -/
def describe : Json → Text
  | .null => "null".toList
  | .bool true => "boolean `true`".toList
  | .bool false => "boolean `false`".toList
  | .number value => "integer `".toList ++ Json.decimal value ++ "`".toList
  | .string value => "string ".toList ++ showText value
  | .array _ => "sequence".toList
  | .object _ => "map".toList

/-- The wording of a fault. -/
def message : RecordFault → Text
  | missing key => "missing field `".toList ++ key ++ "`".toList
  | notText found =>
    "invalid type: ".toList ++ describe found ++ ", expected a string".toList
  | notList found =>
    "invalid type: ".toList ++ describe found ++ ", expected a sequence".toList

end RecordFault

namespace Language

/-- A value as a text. -/
def textOf : Json → Except RecordFault Text
  | .string value => .ok value
  | found => .error (.notText found)

/-- A value as a list of texts. -/
def textsOf : Json → Except RecordFault (List Text)
  | .array items => items.mapM textOf
  | found => .error (.notList found)

/-- Read a member if it is there. -/
def optional {α : Type} (read : Json → Except RecordFault α) (members : List (Text × Json))
    (key : String) : Except RecordFault (Option α) :=
  match Json.member? key.toList members with
  | none => .ok none
  | some value => (read value).map some

/-- The value of a member that must be there. -/
def required {α : Type} (key : String) : Option α → Except RecordFault α
  | some value => .ok value
  | none => .error (.missing key.toList)

/-- The language given by the members of a record. -/
def ofRecord (members : List (Text × Json)) : Except RecordFault Language := do
  let ands ← optional textsOf members "and"
  let backgrounds ← optional textsOf members "background"
  let buts ← optional textsOf members "but"
  let code ← optional textOf members "code"
  let examples ← optional textsOf members "examples"
  let features ← optional textsOf members "feature"
  let givens ← optional textsOf members "given"
  let name ← optional textOf members "name"
  let native ← optional textOf members "native"
  let rules ← optional textsOf members "rule"
  let scenarios ← optional textsOf members "scenario"
  let outlines ← optional textsOf members "scenarioOutline"
  let thens ← optional textsOf members "then"
  let whens ← optional textsOf members "when"
  return {
    code := code.getD []
    name := ← required "name" name
    native := ← required "native" native
    ands := ← required "and" ands
    backgrounds := ← required "background" backgrounds
    buts := ← required "but" buts
    examples := ← required "examples" examples
    features := ← required "feature" features
    givens := ← required "given" givens
    rules := ← required "rule" rules
    scenarios := ← required "scenario" scenarios
    outlines := ← required "scenarioOutline" outlines
    thens := ← required "then" thens
    whens := ← required "when" whens }

/-- The members of the record of a language, in the order in which they are written. -/
def toRecord (language : Language) : List (Text × Json) :=
  [("code".toList, .string language.code),
    ("name".toList, .string language.name),
    ("native".toList, .string language.native),
    ("and".toList, .ofTexts language.ands),
    ("background".toList, .ofTexts language.backgrounds),
    ("but".toList, .ofTexts language.buts),
    ("examples".toList, .ofTexts language.examples),
    ("feature".toList, .ofTexts language.features),
    ("given".toList, .ofTexts language.givens),
    ("rule".toList, .ofTexts language.rules),
    ("scenario".toList, .ofTexts language.scenarios),
    ("scenarioOutline".toList, .ofTexts language.outlines),
    ("then".toList, .ofTexts language.thens),
    ("when".toList, .ofTexts language.whens)]

end Language
end Gherkin
