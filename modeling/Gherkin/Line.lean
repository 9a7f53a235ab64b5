import Gherkin.Location
import Gherkin.Text.Blank

namespace Gherkin

/-!
# Lines

A feature file is read line by line.  A line keeps its text as it was written,
indentation included, together with its number.
-/

/-- One line of a feature file and its number, counted from 1. -/
structure Line where
  text : Text
  number : Nat
deriving DecidableEq

namespace Line

/-- The text without the whitespace around it. -/
def trimmed (line : Line) : Text :=
  line.text.trim

/-- Whether the line holds nothing but whitespace. -/
def isBlank (line : Line) : Bool :=
  line.text.isBlank

/-- The number of leading whitespace characters. -/
def indent (line : Line) : Nat :=
  line.text.indent

/-- The location of the character with `offset` characters before it. -/
def locationAt (line : Line) (offset : Nat) : Location :=
  ⟨line.number, offset + 1⟩

/-- The location of the first character that is not whitespace. -/
def location (line : Line) : Location :=
  line.locationAt line.indent

/-- Whether the trimmed text starts with `start`. -/
def startsWith (line : Line) (start : Text) : Bool :=
  start.isPrefixOf line.trimmed

/-- Number texts in order, from `first` on. -/
def numberFrom : Nat → List Text → List Line
  | _, [] => []
  | first, text :: rest => ⟨text, first⟩ :: numberFrom (first + 1) rest

end Line

end Gherkin
