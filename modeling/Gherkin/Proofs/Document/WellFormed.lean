import Gherkin.Language.Table
import Gherkin.Proofs.Table.Writing
import Gherkin.Proofs.Tag.Writing

namespace Gherkin

open Text (EndsSolid Inner Trimmed)

/-!
# Well-formed documents

A document is a plain tree: nothing in its type keeps a name from starting with a space, or a
table from having columns that are not those of its header.  A well-formed document has only what
reading can give, so that who goes through it need not check again.  Whether its rows are even is
not asked for, nor anything else that is noted as a fault.

The words of a document belong to one language, which the feature names by its code.
-/

/-- A description: lines without whitespace at their ends, of which neither the first nor the last
is blank. -/
structure Description.WellFormed (text : Text) : Prop where
  present : text ≠ []
  inner : Inner text.lines
  solid : ∀ part ∈ text.lines, EndsSolid part

/-- A row of cells without whitespace at their ends, apart from newlines. -/
def Row.Clean (row : Row) : Prop :=
  ∀ cell ∈ row.cells, Cell.Clean cell.value

/-- A table whose columns and whose body's place are those of its rows. -/
structure Table.WellFormed (table : Table) : Prop where
  columns : table.columns = table.header.values
  body : table.bodyLocation = table.rows.head?.map Row.location
  clean : ∀ row ∈ table.allRows, row.Clean

/-- A doc-string that has no blank lines around its content, and no media type rather than an
empty one. -/
structure DocString.WellFormed (docString : DocString) : Prop where
  mediaType : ∀ mediaType ∈ docString.mediaType, mediaType ≠ [] ∧ Trimmed mediaType
  content : docString.content = [] ∨ Inner docString.content.lines

def Argument.WellFormed : Argument → Prop
  | table body => body.WellFormed
  | docString body => body.WellFormed

/-- The keyword is a word of the language for steps of this kind, or is understood in every
language. -/
def StepKind.Spoken (language : Language) (kind : StepKind) (keyword : Text) : Prop :=
  keyword ∈ language.words (.step kind) ∨ ⟨.step kind, keyword⟩ ∈ Classification.common

structure Step.WellFormed (language : Language) (step : Step) : Prop where
  text : Trimmed step.text
  keyword : step.kind.Spoken language step.keyword
  argument : ∀ argument ∈ step.argument, argument.WellFormed

structure Background.WellFormed (language : Language) (background : Background) : Prop where
  name : Trimmed background.name
  description : ∀ text ∈ background.description, Description.WellFormed text
  steps : ∀ step ∈ background.steps, step.WellFormed language

structure Examples.WellFormed (examples : Examples) : Prop where
  name : Trimmed examples.name
  description : ∀ text ∈ examples.description, Description.WellFormed text
  tags : ∀ tag ∈ examples.tags, tag.Proper
  table : ∀ table ∈ examples.table, table.WellFormed

structure Scenario.WellFormed (language : Language) (scenario : Scenario) : Prop where
  name : Trimmed scenario.name
  description : ∀ text ∈ scenario.description, Description.WellFormed text
  tags : ∀ tag ∈ scenario.tags, tag.Proper
  steps : ∀ step ∈ scenario.steps, step.WellFormed language
  examples : ∀ block ∈ scenario.examples, block.WellFormed
  /-- Only outlines have examples. -/
  outline : scenario.examples ≠ [] → scenario.keyword ∈ language.outlines

structure Feature.WellFormed (language : Language) (feature : Feature) : Prop where
  name : Trimmed feature.name
  description : ∀ text ∈ feature.description, Description.WellFormed text
  tags : ∀ tag ∈ feature.tags, tag.Proper
  background : ∀ background ∈ feature.background, background.WellFormed language
  scenarios : ∀ scenario ∈ feature.scenarios, scenario.WellFormed language

/-- A document that is well-formed in the language which its feature names. -/
def Document.WellFormed (languages : LanguageTable) (document : Document) : Prop :=
  ∀ feature ∈ document.feature, ∃ language,
    languages.get? feature.language = some language ∧ feature.WellFormed language

end Gherkin
