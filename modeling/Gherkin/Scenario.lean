import Gherkin.Body
import Gherkin.Examples

namespace Gherkin

/-!
# Scenarios

A scenario has tags, a description and steps.  A scenario outline can have
examples blocks in addition; from the first of them on, lines go to the last
block.  A doc-string that is open in a step takes precedence over all that.
-/

/-- A scenario or scenario outline.  A scenario that is no outline has no examples. -/
structure Scenario extends Heading where
  description : Option Text
  tags : List Tag
  steps : List Step
  examples : List Examples
deriving DecidableEq

/-- How far a scenario was read. -/
inductive Scenario.Phase
  | description
  | steps
  | examples
deriving DecidableEq

/-- A scenario of which the heading was read.  The last examples block comes first. -/
structure Scenario.Reader where
  phase : Scenario.Phase
  heading : Heading
  tags : List Tag
  isOutline : Bool
  body : Body.Draft
  examples : List Examples.Reader

namespace Scenario.Reader

/-- The scenario that a line opens, with the tags in front of it. -/
def onLine (dialect : Dialect) (tags : List Tag) (line : Line) : Scenario.Reader where
  phase := .description
  heading := .onLine dialect.language line
  tags := tags
  isOutline := decide (dialect.role line = .scenarioOutline)
  body := .empty
  examples := []

/-- Whether the next line is one of an open doc-string. -/
def inDocString (reader : Scenario.Reader) : Bool :=
  reader.body.inDocString

/-- What may stand on the next line. -/
def expected (reader : Scenario.Reader) : List Text :=
  match reader.phase with
  | .description => Expected.beforeSteps
  | .steps => if reader.isOutline then Expected.inOutlineSteps else Expected.inSteps
  | .examples => Expected.inExamples

/-- Open an examples block, which only an outline can have. -/
def openExamples (dialect : Dialect) (reader : Scenario.Reader) (tags : List Tag) (line : Line) :
    Scenario.Reader × List Fault :=
  if reader.isOutline then
    let reader := { reader with phase := .examples }
    ({ reader with examples := .onLine dialect tags line :: reader.examples }, [])
  else (reader, [line.mismatch reader.expected])

/-- Read a further line that opens no examples block. -/
def read (dialect : Dialect) (reader : Scenario.Reader) (line : Line) :
    Scenario.Reader × List Fault :=
  if reader.inDocString then
    let result := reader.body.readContent dialect line
    ({ reader with body := result.1 }, result.2)
  else
    match reader.examples with
    | block :: earlier =>
      let result := block.read dialect line
      ({ reader with examples := result.1 :: earlier }, result.2)
    | [] =>
      let begun := decide (reader.phase ≠ .description)
      let result := reader.body.read dialect begun reader.expected line
      let reader := { reader with body := result.1.1 }
      (if result.1.2 then { reader with phase := .steps } else reader, result.2)

/-- The scenario with the lines read so far. -/
def finish (reader : Scenario.Reader) : Scenario where
  toHeading := reader.heading
  description := reader.body.description.finish
  tags := reader.tags
  steps := reader.body.steps.finish
  examples := reader.examples.reverse.map Examples.Reader.finish

end Scenario.Reader

end Gherkin
