import Gherkin.Layout.Document

namespace Gherkin

/-!
# Documents without locations

Writing a document moves everything in it, so a document that is read back
agrees with the one before in everything but its locations and comments.
Erasing puts every location at one place and drops the comments.  Whether the
place of a table's body is known is kept.  Nothing that is erased is written.
-/

/-- The place at which everything in an erased document stands. -/
def Location.erased : Location :=
  ⟨0, 0⟩

/-- The tag without its place. -/
def Tag.erased (tag : Tag) : Tag :=
  { tag with location := .erased }

/-- The heading without its place. -/
def Heading.erased (heading : Heading) : Heading :=
  { heading with location := .erased }

/-- The cell without its place. -/
def Cell.erased (cell : Cell) : Cell :=
  { cell with location := .erased }

/-- The row without its place and the places of its cells. -/
def Row.erased (row : Row) : Row where
  cells := row.cells.map Cell.erased
  location := .erased

/-- The table without the places in it. -/
def Table.erased (table : Table) : Table where
  columns := table.columns
  header := table.header.erased
  rows := table.rows.map Row.erased
  headerLocation := .erased
  bodyLocation := table.bodyLocation.map fun _ => .erased

/-- The doc-string without its place. -/
def DocString.erased (docString : DocString) : DocString :=
  { docString with location := .erased }

/-- The argument without the places in it. -/
def Argument.erased : Argument → Argument
  | table body => table body.erased
  | docString body => docString body.erased

/-- The step without the places in it. -/
def Step.erased (step : Step) : Step :=
  { step with argument := step.argument.map Argument.erased, location := .erased }

/-- The background without the places in it. -/
def Background.erased (background : Background) : Background where
  toHeading := background.toHeading.erased
  description := background.description
  steps := background.steps.map Step.erased

/-- The examples block without the places in it. -/
def Examples.erased (examples : Examples) : Examples where
  toHeading := examples.toHeading.erased
  description := examples.description
  tags := examples.tags.map Tag.erased
  table := examples.table.map Table.erased

/-- The scenario without the places in it. -/
def Scenario.erased (scenario : Scenario) : Scenario where
  toHeading := scenario.toHeading.erased
  description := scenario.description
  tags := scenario.tags.map Tag.erased
  steps := scenario.steps.map Step.erased
  examples := scenario.examples.map Examples.erased

/-- The feature without the places in it. -/
def Feature.erased (feature : Feature) : Feature where
  toHeading := feature.toHeading.erased
  language := feature.language
  description := feature.description
  tags := feature.tags.map Tag.erased
  background := feature.background.map Background.erased
  scenarios := feature.scenarios.map Scenario.erased

/-- The document without its comments and the places in it. -/
def Document.erased (document : Document) : Document where
  uri := document.uri
  comments := []
  feature := document.feature.map Feature.erased

/-! ## Locations are not written -/

@[simp] theorem Tag.layout_erased (indent : Nat) (tags : List Tag) :
    Tag.layout indent (tags.map Tag.erased) = Tag.layout indent tags := by
  have same : Tag.marked ∘ Tag.erased = Tag.marked := rfl
  simp [Tag.layout, same]

@[simp] theorem Heading.layout_erased (indent : Nat) (heading : Heading) :
    heading.erased.layout indent = heading.layout indent :=
  rfl

@[simp] theorem Row.values_erased (row : Row) : row.erased.values = row.values := by
  have same : Cell.value ∘ Cell.erased = Cell.value := rfl
  simp [Row.values, Row.erased, same]

@[simp] theorem Table.layout_erased (indent : Nat) (table : Table) :
    table.erased.layout indent = table.layout indent := by
  have same : Row.values ∘ Row.erased = Row.values := funext Row.values_erased
  simp [Table.layout, Table.values, Table.allRows, Table.erased, same]

@[simp] theorem Argument.layout_erased (argument : Argument) :
    argument.erased.layout = argument.layout := by
  cases argument with
  | table body => exact Table.layout_erased _ body
  | docString body => rfl

@[simp] theorem Step.layout_erased (step : Step) : step.erased.layout = step.layout := by
  have same : Argument.layout ∘ Argument.erased = Argument.layout := funext Argument.layout_erased
  simp [Step.layout, Step.headLayout, Step.erased, same]

@[simp] theorem Background.layout_erased (background : Background) :
    background.erased.layout = background.layout := by
  simp [Background.layout, Background.erased, List.flatMap_map]

@[simp] theorem Examples.layout_erased (examples : Examples) :
    examples.erased.layout = examples.layout := by
  have same : Table.layout Layout.argumentIndent ∘ Table.erased = Table.layout Layout.argumentIndent :=
    funext (Table.layout_erased _)
  simp [Examples.layout, Examples.erased, same]

@[simp] theorem Scenario.layout_erased (scenario : Scenario) :
    scenario.erased.layout = scenario.layout := by
  simp [Scenario.layout, Scenario.erased, List.flatMap_map]

@[simp] theorem Feature.layout_erased (feature : Feature) : feature.erased.layout = feature.layout := by
  have same : (fun background => [[]] ++ Background.layout background) ∘ Background.erased =
      fun background => [[]] ++ Background.layout background := by
    funext background
    simp
  simp only [Feature.layout, Feature.erased, Tag.layout_erased, Heading.layout_erased, Option.map_map,
    same, List.flatMap_map, Scenario.layout_erased]

@[simp] theorem Document.layout_erased (document : Document) :
    document.erased.layout = document.layout := by
  have same : Feature.layout ∘ Feature.erased = Feature.layout := funext Feature.layout_erased
  simp [Document.layout, Document.erased, same]

end Gherkin
