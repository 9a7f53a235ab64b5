import Gherkin.Body
import Gherkin.Heading

namespace Gherkin

/-!
# Backgrounds

A background holds the steps that come before those of every scenario.
-/

/-- The background of a feature. -/
structure Background extends Heading where
  description : Option Text
  steps : List Step
deriving DecidableEq

/-- How far a background was read. -/
inductive Background.Phase
  | description
  | steps
deriving DecidableEq

/-- A background of which the heading was read. -/
structure Background.Reader where
  phase : Background.Phase
  heading : Heading
  body : Body.Draft

namespace Background.Reader

/-- The background that a line opens. -/
def onLine (dialect : Dialect) (line : Line) : Background.Reader :=
  ⟨.description, .onLine dialect.language line, .empty⟩

/-- Whether the next line is one of an open doc-string. -/
def inDocString (reader : Background.Reader) : Bool :=
  reader.body.inDocString

/-- What may stand on the next line. -/
def expected (reader : Background.Reader) : List Text :=
  match reader.phase with
  | .description => Expected.beforeSteps
  | .steps => Expected.inSteps

/-- Read a further line. -/
def read (dialect : Dialect) (reader : Background.Reader) (line : Line) :
    Background.Reader × List Fault :=
  if reader.inDocString then
    let result := reader.body.readContent dialect line
    ({ reader with body := result.1 }, result.2)
  else
    let begun := decide (reader.phase ≠ .description)
    let result := reader.body.read dialect begun reader.expected line
    let reader := { reader with body := result.1.1 }
    (if result.1.2 then { reader with phase := .steps } else reader, result.2)

/-- The background with the lines read so far. -/
def finish (reader : Background.Reader) : Background where
  toHeading := reader.heading
  description := reader.body.description.finish
  steps := reader.body.steps.finish

end Background.Reader

end Gherkin
