import Gherkin.Document.Basic
import Gherkin.Layout.DocString
import Gherkin.Layout.Table

namespace Gherkin

/-!
# Written documents

A document is written in one canonical form.  Headings below the feature line
are indented by two spaces, steps and examples headings by four and arguments by
six, and a blank line stands before every block.  Descriptions keep their own
indentation.  Comments are not written.

A language directive is written unless the language is English, which is what a
reader with the standard settings assumes of a document without one.
-/

namespace Layout

/-- The language that is written without a directive. -/
def impliedLanguage : Text :=
  "en".toList

/-- The indentation of backgrounds and scenarios. -/
def blockIndent : Nat :=
  2

/-- The indentation of steps and examples blocks. -/
def stepIndent : Nat :=
  4

/-- The indentation of tables and doc-strings. -/
def argumentIndent : Nat :=
  6

/-- A line indented by `indent` spaces. -/
def indented (indent : Nat) (text : Text) : Text :=
  List.replicate indent ' ' ++ text

end Layout

open Layout

/-- The line of a language directive, where one is needed. -/
def Language.directiveLayout (code : Text) : List Text :=
  if code = impliedLanguage then [] else ["# language: ".toList ++ code]

/-- Tags on one line, where there are any. -/
def Tag.layout (indent : Nat) (tags : List Tag) : List Text :=
  if tags.isEmpty then [] else [indented indent ([' '].intercalate (tags.map Tag.marked))]

/-- The line of a heading. -/
def Heading.layout (indent : Nat) (heading : Heading) : Text :=
  let title := if heading.name.isEmpty then [] else [' '] ++ heading.name
  indented indent (heading.keyword ++ [':'] ++ title)

/-- The lines of a description. -/
def Description.layout (description : Option Text) : List Text :=
  (description.map Text.lines).getD []

/-- The line of a step without its argument.  A step without text loses the separator
behind its keyword. -/
def Step.headLayout (step : Step) : Text :=
  indented stepIndent
    (if step.text.isEmpty then step.keyword.trimEnd else step.keyword ++ step.text)

/-- The lines of an argument. -/
def Argument.layout : Argument → List Text
  | .table body => body.layout argumentIndent
  | .docString body => body.layout argumentIndent

/-- The lines of a step. -/
def Step.layout (step : Step) : List Text :=
  [step.headLayout] ++ (step.argument.map Argument.layout).getD []

/-- The lines of a background. -/
def Background.layout (background : Background) : List Text :=
  [background.toHeading.layout blockIndent] ++ Description.layout background.description ++
    background.steps.flatMap Step.layout

/-- The lines of an examples block. -/
def Examples.layout (examples : Examples) : List Text :=
  Tag.layout stepIndent examples.tags ++ [examples.toHeading.layout stepIndent] ++
    Description.layout examples.description ++
    (examples.table.map (Table.layout argumentIndent)).getD []

/-- The lines of a scenario. -/
def Scenario.layout (scenario : Scenario) : List Text :=
  Tag.layout blockIndent scenario.tags ++ [scenario.toHeading.layout blockIndent] ++
    Description.layout scenario.description ++ scenario.steps.flatMap Step.layout ++
    scenario.examples.flatMap fun examples => [[]] ++ examples.layout

/-- The lines of a feature. -/
def Feature.layout (feature : Feature) : List Text :=
  Language.directiveLayout feature.language ++ Tag.layout 0 feature.tags ++
    [feature.toHeading.layout 0] ++ Description.layout feature.description ++
    (feature.background.map fun background => [[]] ++ background.layout).getD [] ++
    feature.scenarios.flatMap fun scenario => [[]] ++ scenario.layout

namespace Document

/-- The lines of a document.  There are none if it has no feature. -/
def layout (document : Document) : List Text :=
  (document.feature.map Feature.layout).getD []

/-- The text of a document in its canonical form. -/
def format (document : Document) : Text :=
  Text.endLines document.layout

end Document

end Gherkin
