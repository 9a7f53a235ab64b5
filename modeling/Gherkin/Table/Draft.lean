import Gherkin.Fault
import Gherkin.Table.Row

namespace Gherkin
namespace Table

/-!
# Tables in progress

The first row of a table is its header and fixes the number of columns.  A
later row with another number of cells is kept and noted as a fault.
-/

/-- A table of which the header was read.  The last row read comes first. -/
structure Draft where
  header : Row
  headerLocation : Location
  rows : List Row

namespace Draft

/-- Read a further row, or the header if there is no table yet. -/
def add (table : Option Draft) (line : Line) : Draft × List Fault :=
  let row := Row.onLine line
  match table with
  | none => (⟨row, Row.barLocation line, []⟩, [])
  | some draft =>
    ({ draft with rows := row :: draft.rows },
      if row.cells.length = draft.header.cells.length then [] else [⟨.unevenRow, row.location⟩])

/-- The table with the rows read so far. -/
def finish (draft : Draft) : Table :=
  let rows := draft.rows.reverse
  { columns := draft.header.values
    header := draft.header
    rows := rows
    headerLocation := draft.headerLocation
    bodyLocation := rows.head?.map Row.location }

end Draft

end Table
end Gherkin
