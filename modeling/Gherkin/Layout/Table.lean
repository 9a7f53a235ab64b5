import Gherkin.Table.Basic

namespace Gherkin
namespace Table

/-!
# Written tables

Each row takes a line.  A cell stands between bars with a space on both sides
of it, and is padded on its right to the width of its column: that of the
widest cell at this position in any row, the header included.  Rows need not
have the same number of cells; a shorter row ends with its last cell.
-/

/-- A character as it is written in a cell. -/
def escapeCharacter (character : Char) : Text :=
  if character = '\\' then ['\\', '\\']
  else if character = '|' then ['\\', '|']
  else if character = '\n' then ['\\', 'n']
  else [character]

/-- The text of a cell as it is written. -/
def escapeCell (value : Text) : Text :=
  value.flatMap escapeCharacter

/-- The wider of two columns at each position, where either list may be the longer one. -/
def widest : List Nat → List Nat → List Nat
  | [], others => others
  | widths, [] => widths
  | width :: widths, other :: others => max width other :: widest widths others

/-- The widths of the columns of written rows. -/
def widths (rows : List (List Text)) : List Nat :=
  rows.foldr (fun row rest => widest (row.map List.length) rest) []

/-- A cell with the bar that closes it. -/
def closedCell (width : Nat) (cell : Text) : Text :=
  [' '] ++ cell ++ List.replicate (width - cell.length) ' ' ++ [' ', '|']

/-- The written cells of one row between their bars. -/
def writtenRow (widths : List Nat) (row : List Text) : Text :=
  ['|'] ++ (List.zipWith closedCell widths row).flatten

/-- The lines of a table, each indented by `indent` spaces. -/
def layout (indent : Nat) (table : Table) : List Text :=
  let rows := table.values.map fun row => row.map escapeCell
  let columnWidths := widths rows
  rows.map fun row => List.replicate indent ' ' ++ writtenRow columnWidths row

end Table
end Gherkin
