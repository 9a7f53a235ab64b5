import Gherkin.Description
import Gherkin.Expected
import Gherkin.Step.Sequence

namespace Gherkin

/-!
# Bodies of backgrounds and scenarios

Below its heading a background or scenario has a description and then steps.
The description ends with the first step.  Before that step, table rows and
doc-string separators have nothing to which they could belong; behind it, only
lines of steps and their arguments are taken.  Whether it has ended is known to
the construct whose body it is.
-/

/-- A description and the steps below it, in progress. -/
structure Body.Draft where
  description : Description.Draft
  steps : Step.Sequence

namespace Body.Draft

/-- The body of a construct of which only the heading was read. -/
def empty : Body.Draft :=
  ⟨[], []⟩

/-- Whether the next line is one of an open doc-string. -/
def inDocString (draft : Body.Draft) : Bool :=
  draft.steps.inDocString

/-- Read a line of an open doc-string, which goes to the last step. -/
def readContent (dialect : Dialect) (draft : Body.Draft) (line : Line) : Body.Draft × List Fault :=
  let offered := draft.steps.offer dialect line
  ({ draft with steps := offered.1.1 }, offered.2)

/-- Read a line outside doc-strings.  `begun` tells whether the description has ended
before, and the value beside the body whether it ends with this line. -/
def read (dialect : Dialect) (begun : Bool) (expected : List Text) (draft : Body.Draft)
    (line : Line) : (Body.Draft × Bool) × List Fault :=
  let started := draft.steps.start dialect line
  let draft := { draft with steps := started.1 }
  if started.2 then ((draft, true), [])
  else if begun then
    let offered := draft.steps.offer dialect line
    let draft := { draft with steps := offered.1.1 }
    if offered.1.2 then ((draft, false), offered.2)
    else ((draft, false), offered.2 ++ [line.mismatch expected])
  else if dialect.isArgument line then ((draft, false), [line.mismatch expected])
  else (({ draft with description := draft.description.add line }, false), [])

end Body.Draft

end Gherkin
