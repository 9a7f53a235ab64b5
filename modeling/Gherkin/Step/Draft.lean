import Gherkin.Dialect
import Gherkin.DocString.Draft
import Gherkin.Step.Basic
import Gherkin.Table.Draft

namespace Gherkin
namespace Step

/-!
# Steps in progress

Behind a step line may follow the lines of one argument.  `accepts` says which
lines those are, and `add` reads one of them.  A doc-string takes every line
while it is open and none after it was closed; a table takes rows for as long as
they come, across blank lines.
-/

/-- A step of which the first line was read, with what was read of its argument. -/
structure Draft where
  kind : StepKind
  keyword : Text
  text : Text
  location : Location
  table : Option Table.Draft
  docString : Option DocString.Draft

namespace Draft

/-- The step that a line starts, if it starts one. -/
def onLine? (dialect : Dialect) (line : Line) : Option Draft :=
  let classification := line.classify dialect.language
  match classification.role with
  | .step kind =>
    some ⟨kind, classification.keyword, line.textAfter classification, line.location, none, none⟩
  | _ => none

/-- Whether the next line is one of an open doc-string. -/
def inDocString (draft : Draft) : Bool :=
  DocString.inProgress draft.docString

/-- Whether a line belongs to the argument of the step. -/
def accepts (dialect : Dialect) (draft : Draft) (line : Line) : Bool :=
  match draft.docString with
  | some docString => docString.isOpen
  | none =>
    decide (dialect.role line = .tableRow) ||
      (draft.table.isNone && dialect.isSeparator line)

/-- Read a line of the argument. -/
def add (dialect : Dialect) (draft : Draft) (line : Line) : Draft × List Fault :=
  if draft.inDocString || dialect.isSeparator line then
    let docString := DocString.Draft.extend dialect.separators draft.docString line
    ({ draft with docString := docString }, [])
  else
    let result := Table.Draft.add draft.table line
    ({ draft with table := some result.1 }, result.2)

/-- The argument read so far.  If both a table and a doc-string were begun, it is the
table. -/
def argument (draft : Draft) : Option Argument :=
  match draft.table with
  | some table => some (.table table.finish)
  | none => draft.docString.map fun docString => .docString docString.finish

/-- The step with what was read of its argument. -/
def finish (draft : Draft) : Step where
  kind := draft.kind
  keyword := draft.keyword
  text := draft.text
  argument := draft.argument
  location := draft.location

end Draft

end Step
end Gherkin
