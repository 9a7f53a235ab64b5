import Gherkin.Location

namespace Gherkin

/-!
# Tables

A table is a header row and the rows below it.  Rows may differ in length from
the header; that is a fault of the document, but the rows are kept.
-/

/-- One cell of a table row, with its escapes resolved. -/
structure Cell where
  value : Text
  location : Location
deriving DecidableEq

/-- One row of a table. -/
structure Row where
  cells : List Cell
  location : Location
deriving DecidableEq

namespace Row

/-- The texts in the cells of a row. -/
def values (row : Row) : List Text :=
  row.cells.map Cell.value

end Row

/-- A table.  `columns` are the texts of the header, and `bodyLocation` is the place of
the first row below it. -/
structure Table where
  columns : List Text
  header : Row
  rows : List Row
  headerLocation : Location
  bodyLocation : Option Location
deriving DecidableEq

namespace Table

/-- The header and the rows below it. -/
def allRows (table : Table) : List Row :=
  table.header :: table.rows

/-- The texts in all cells, row by row. -/
def values (table : Table) : List (List Text) :=
  table.allRows.map Row.values

end Table

end Gherkin
