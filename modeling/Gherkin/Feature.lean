import Gherkin.Background
import Gherkin.Scenario

namespace Gherkin

/-!
# Features

A feature has a description, at most one background and scenarios, in this
order.  A line goes to the construct that was opened last: the last scenario,
or else the background, or else the description.
-/

/-- A feature. -/
structure Feature extends Heading where
  /-- The code of the language in which the feature was read. -/
  language : Text
  description : Option Text
  tags : List Tag
  background : Option Background
  scenarios : List Scenario
deriving DecidableEq

/-- The steps of a feature: those of the background, and then those of the scenarios. -/
def Feature.steps (feature : Feature) : List Step :=
  (feature.background.map Background.steps).getD [] ++ feature.scenarios.flatMap Scenario.steps

end Gherkin
