namespace Gherkin

/-!
# Texts

Everything a feature file holds is handled as a list of Unicode scalar values.
Lengths, offsets and columns then count characters, and every function on texts
is a function on lists.  Strings appear only where a text is written down in
this library or handed to its caller.
-/

/-- A text is the list of its characters, in order. -/
abbrev Text := List Char

namespace Text

/-- The decimal digits of a number, without leading zeros. -/
def ofNat (number : Nat) : Text :=
  Nat.toDigits 10 number

/-- Strict lexicographic order by scalar value.  A text comes before every text
that properly extends it. -/
def before : Text → Text → Bool
  | _, [] => false
  | [], _ :: _ => true
  | first :: rest, other :: others =>
    if first = other then before rest others else decide (first.toNat < other.toNat)

end Text

end Gherkin
