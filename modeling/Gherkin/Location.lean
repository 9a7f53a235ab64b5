import Gherkin.Text.Basic

namespace Gherkin

/-!
# Locations

A location is a line number and a column.  Both count from 1, and columns
count characters.  Column 0 stands for a place that is no character at all:
the end of the input.
-/

/-- A place in a feature file. -/
structure Location where
  line : Nat
  column : Nat
deriving DecidableEq

namespace Location

/-- The place behind the last line. -/
def endOfInput (lastLine : Nat) : Location :=
  ⟨lastLine + 1, 0⟩

/-- Reading order: the line decides, and the column within one line. -/
instance : LT Location :=
  ⟨fun first second => first.line < second.line ∨
    (first.line = second.line ∧ first.column < second.column)⟩

instance decidableLT (first second : Location) : Decidable (first < second) :=
  inferInstanceAs (Decidable (_ ∨ _))

/-- The locations in reading order.  Equal ones all stay. -/
def inOrder (locations : List Location) : List Location :=
  locations.mergeSort fun first second => !decide (second < first)

/-- A location as shown to a reader, in the form `(line:column)`. -/
def display (location : Location) : Text :=
  ['('] ++ Text.ofNat location.line ++ [':'] ++ Text.ofNat location.column ++ [')']

end Location

end Gherkin
