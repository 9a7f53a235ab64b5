import Gherkin.Description
import Gherkin.Dialect
import Gherkin.Expected
import Gherkin.Heading
import Gherkin.Table.Draft
import Gherkin.Tag

namespace Gherkin

/-!
# Examples blocks

An examples block gives the values for the placeholders of a scenario outline.
Below its heading it has a description and then one table.  Behind the first
row only rows and blank lines are taken, and steps are taken nowhere.
-/

/-- An examples block. -/
structure Examples extends Heading where
  description : Option Text
  tags : List Tag
  table : Option Table
deriving DecidableEq

/-- How far an examples block was read. -/
inductive Examples.Phase
  | description
  | table
deriving DecidableEq

/-- An examples block of which the heading was read. -/
structure Examples.Reader where
  phase : Examples.Phase
  heading : Heading
  tags : List Tag
  description : Description.Draft
  table : Option Table.Draft

namespace Examples.Reader

/-- The examples block that a line opens, with the tags in front of it. -/
def onLine (dialect : Dialect) (tags : List Tag) (line : Line) : Examples.Reader :=
  ⟨.description, .onLine dialect.language line, tags, [], none⟩

/-- Read a further line. -/
def read (dialect : Dialect) (reader : Examples.Reader) (line : Line) :
    Examples.Reader × List Fault :=
  if dialect.role line = .tableRow then
    let result := Table.Draft.add reader.table line
    ({ reader with phase := .table, table := some result.1 }, result.2)
  else
    match reader.phase with
    | .table =>
      if line.isBlank then (reader, []) else (reader, [line.mismatch Expected.inExamples])
    | .description =>
      if (dialect.role line).isStep then (reader, [line.mismatch Expected.inExamples])
      else ({ reader with description := reader.description.add line }, [])

/-- The examples block with the lines read so far. -/
def finish (reader : Examples.Reader) : Examples where
  toHeading := reader.heading
  description := reader.description.finish
  tags := reader.tags
  table := reader.table.map Table.Draft.finish

end Examples.Reader

end Gherkin
