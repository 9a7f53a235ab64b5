import Gherkin.Document.Basic

namespace Gherkin

/-!
# Marks

A mark is one location of a document together with what is said to stand there.
Going through the tree in document order gives all its marks: tags come before the
construct that claimed them, an argument behind its step, and the cells of a table
row by row.  Comments are kept apart from the tree, and so are their locations.

Next to its cells a table notes where its bars begin and where its rows do.  These
places are marks too, but none of nodes: a row is placed by its first cell.
-/

/-- What stands at a location. -/
inductive Subject
  | heading (keyword name : Text)
  | step (keyword content : Text)
  | tag (name : Text)
  | docString (separator : Text)
  | table
  | row
  | cell (value : Text)
deriving DecidableEq

/-- A location of a document and what is said to stand there. -/
structure Mark where
  subject : Subject
  location : Location
deriving DecidableEq

namespace Subject

/-- Whether the subject is a node of its own and not the frame around the cells of a table. -/
def isNode : Subject → Bool
  | table | row => false
  | _ => true

/-- The text has the subject at the given offset.  What stands there is read from this character
on; only a step without a text can have lost the end of its keyword to trimming, and then the
line holds nothing else. -/
def StandsAt (text : Text) (offset : Nat) : Subject → Prop
  | heading keyword name => ∃ rest, text.drop offset = keyword ++ ':' :: rest ∧ Text.trim rest = name
  | step keyword content =>
    (∃ rest, text.drop offset = keyword ++ rest ∧ Text.trim rest = content) ∨
      (Text.trim text = Text.trimEnd keyword ∧ offset = Text.indent text ∧ content = [])
  | tag name =>
    ∃ blank rest, Text.isBlank blank = true ∧ text.drop offset = '@' :: (blank ++ name ++ rest)
  | docString separator => separator <+: text.drop offset
  | table => text[offset]? = some '|'
  | row => ∃ first, text[offset]? = some first ∧ Text.isSpace first = false
  | cell [] => text[offset]? = some '|'
  | cell (first :: _) => text[offset]? = some first ∨ text[offset]? = some '\\'

end Subject

/-! ## The marks of a tree, in document order -/

def Heading.mark (heading : Heading) : Mark :=
  ⟨.heading heading.keyword heading.name, heading.location⟩

def Tag.mark (tag : Tag) : Mark :=
  ⟨.tag tag.name, tag.location⟩

def Cell.mark (cell : Cell) : Mark :=
  ⟨.cell cell.value, cell.location⟩

def Row.marks (row : Row) : List Mark :=
  ⟨.row, row.location⟩ :: row.cells.map Cell.mark

def Table.marks (table : Table) : List Mark :=
  ⟨.table, table.headerLocation⟩ :: table.header.marks ++
    (table.bodyLocation.map (Mark.mk .row)).toList ++ table.rows.flatMap Row.marks

def DocString.mark (docString : DocString) : Mark :=
  ⟨.docString docString.separator, docString.location⟩

def Argument.marks : Argument → List Mark
  | .table body => body.marks
  | .docString body => [body.mark]

def Step.marks (step : Step) : List Mark :=
  ⟨.step step.keyword step.text, step.location⟩ :: (step.argument.map Argument.marks).getD []

def Background.marks (background : Background) : List Mark :=
  background.toHeading.mark :: background.steps.flatMap Step.marks

def Examples.marks (examples : Examples) : List Mark :=
  examples.tags.map Tag.mark ++ examples.toHeading.mark :: (examples.table.map Table.marks).getD []

def Scenario.marks (scenario : Scenario) : List Mark :=
  scenario.tags.map Tag.mark ++ scenario.toHeading.mark :: scenario.steps.flatMap Step.marks ++
    scenario.examples.flatMap Examples.marks

def Feature.marks (feature : Feature) : List Mark :=
  feature.tags.map Tag.mark ++ feature.toHeading.mark ::
    (feature.background.map Background.marks).getD [] ++ feature.scenarios.flatMap Scenario.marks

def Document.marks (document : Document) : List Mark :=
  (document.feature.map Feature.marks).getD []

/-- The locations of the nodes among the marks. -/
def Mark.nodeLocations (marks : List Mark) : List Location :=
  (marks.filter fun mark => mark.subject.isNode).map Mark.location

end Gherkin
