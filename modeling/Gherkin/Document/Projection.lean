import Gherkin.Document.Basic
import Gherkin.Json.Printer

namespace Gherkin

/-!
# Documents as JSON

The projection of a document is a JSON object.  Members whose value would be
empty are left out, except for the uri, the keywords, the texts of steps and
cells, the content of doc-strings, the language and the children of a feature,
and the rows of a table with their cells.

The children of a feature are its background and its scenarios, each in an
object with the one key `background` or `scenario`.  Tags are written with
their `@`.  The table of a step is one list of rows, whereas that of an examples
block is split into header and body.
-/

namespace Json

/-- A member that is always there. -/
def field (key : String) (value : Json) : List (Text × Json) :=
  [(key.toList, value)]

/-- A member that is left out if there is no value. -/
def optionalField (key : String) (value : Option Json) : List (Text × Json) :=
  (value.map (field key)).getD []

/-- A member that is left out if the text is empty. -/
def textField (key : String) (text : Text) : List (Text × Json) :=
  if text.isEmpty then [] else field key (string text)

/-- A member that is left out if the list is empty. -/
def listField (key : String) (items : List Json) : List (Text × Json) :=
  if items.isEmpty then [] else field key (array items)

end Json

open Json (field optionalField textField listField)

/-- A location by its line and column. -/
def Location.project (location : Location) : Json :=
  .object (field "line" (.number location.line) ++ field "column" (.number location.column))

/-- Tags as they are written. -/
def Tag.projectAll (tags : List Tag) : List Json :=
  tags.map fun tag => .string tag.marked

/-- A comment. -/
def Comment.project (comment : Comment) : Json :=
  .object (field "location" comment.location.project ++ field "text" (.string comment.text))

/-- A cell of a table. -/
def Cell.project (cell : Cell) : Json :=
  .object (field "location" cell.location.project ++ field "value" (.string cell.value))

/-- A row of a table. -/
def Row.project (row : Row) : Json :=
  .object (field "location" row.location.project ++
    field "cells" (.array (row.cells.map Cell.project)))

/-- The table of a step. -/
def Table.project (table : Table) : Json :=
  .object (field "location" table.headerLocation.project ++
    field "rows" (.array (table.allRows.map Row.project)))

/-- A doc-string. -/
def DocString.project (docString : DocString) : Json :=
  .object (field "location" docString.location.project ++
    field "content" (.string docString.content) ++
    field "delimiter" (.string docString.separator) ++
    optionalField "mediaType" (docString.mediaType.map .string))

/-- A step. -/
def Step.project (step : Step) : Json :=
  .object (field "keyword" (.string step.keyword) ++ field "text" (.string step.text) ++
    field "location" step.location.project ++
    optionalField "dataTable" (step.table?.map Table.project) ++
    optionalField "docString" (step.docString?.map DocString.project))

/-- The members for a heading and the description below it. -/
def Heading.projectWith (heading : Heading) (description : Option Text) : List (Text × Json) :=
  field "keyword" (.string heading.keyword) ++ field "location" heading.location.project ++
    textField "name" heading.name ++ optionalField "description" (description.map .string)

/-- A background. -/
def Background.project (background : Background) : Json :=
  .object (background.toHeading.projectWith background.description ++
    listField "steps" (background.steps.map Step.project))

/-- An examples block. -/
def Examples.project (examples : Examples) : Json :=
  .object (examples.toHeading.projectWith examples.description ++
    listField "tags" (Tag.projectAll examples.tags) ++
    optionalField "tableHeader" (examples.table.map fun table => table.header.project) ++
    listField "tableBody" (((examples.table.map Table.rows).getD []).map Row.project))

/-- A scenario. -/
def Scenario.project (scenario : Scenario) : Json :=
  .object (scenario.toHeading.projectWith scenario.description ++
    listField "tags" (Tag.projectAll scenario.tags) ++
    listField "steps" (scenario.steps.map Step.project) ++
    listField "examples" (scenario.examples.map Examples.project))

/-- The background and the scenarios of a feature. -/
def Feature.children (feature : Feature) : List Json :=
  (feature.background.map fun background =>
      [Json.object (field "background" background.project)]).getD [] ++
    feature.scenarios.map fun scenario => .object (field "scenario" scenario.project)

/-- A feature. -/
def Feature.project (feature : Feature) : Json :=
  .object (field "keyword" (.string feature.keyword) ++
    field "language" (.string feature.language) ++
    field "location" feature.location.project ++
    textField "name" feature.name ++
    optionalField "description" (feature.description.map .string) ++
    listField "tags" (Tag.projectAll feature.tags) ++
    field "children" (.array feature.children))

namespace Document

/-- A document as a JSON value. -/
def project (document : Document) : Json :=
  .object (field "uri" (.string document.uri) ++
    listField "comments" (document.comments.map Comment.project) ++
    optionalField "feature" (document.feature.map Feature.project))

/-- The JSON text of a document without whitespace outside of strings. -/
def compactJson (document : Document) : Text :=
  document.project.compact

/-- The JSON text of a document over several lines. -/
def prettyJson (document : Document) : Text :=
  document.project.pretty

end Document

/-- A fault by its document, its place and its wording. -/
def Fault.project (uri : Text) (fault : Fault) : Json :=
  .object (field "uri" (.string uri) ++ field "location" fault.location.project ++
    field "message" (.string fault.cause.message))

/-- All faults of a rejected document. -/
def Rejection.project (rejection : Rejection) : Json :=
  .array (rejection.faults.map (Fault.project rejection.uri))

end Gherkin
