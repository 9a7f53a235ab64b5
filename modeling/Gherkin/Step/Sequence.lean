import Gherkin.Step.Draft

namespace Gherkin
namespace Step

/-!
# Sequences of steps

The steps of a background or scenario are read one after the other.  A line
that starts no step is offered to the last one; blank lines are taken in
between.  Both `start` and `offer` give back the steps also if the line is not
for them.
-/

/-- Steps in progress.  The last one comes first. -/
abbrev Sequence := List Draft

namespace Sequence

/-- Whether the next line is one of an open doc-string. -/
def inDocString (steps : Sequence) : Bool :=
  steps.head?.any Draft.inDocString

/-- Start a step if the line is the first one of a step.  The second value tells whether
it is. -/
def start (dialect : Dialect) (steps : Sequence) (line : Line) : Sequence × Bool :=
  match Draft.onLine? dialect line with
  | some step => (step :: steps, true)
  | none => (steps, false)

/-- Offer a line that starts no step to the last step.  The value beside the steps tells
whether the line is taken. -/
def offer (dialect : Dialect) (steps : Sequence) (line : Line) : (Sequence × Bool) × List Fault :=
  match steps with
  | step :: earlier =>
    if step.accepts dialect line then
      let result := step.add dialect line
      ((result.1 :: earlier, true), result.2)
    else ((steps, line.isBlank), [])
  | [] => ((steps, line.isBlank), [])

/-- The finished steps, in the order of their lines. -/
def finish (steps : Sequence) : List Step :=
  steps.reverse.map Draft.finish

end Sequence

end Step
end Gherkin
