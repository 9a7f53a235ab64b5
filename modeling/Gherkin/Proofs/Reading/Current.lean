import Gherkin.Proofs.Reading.Transition

namespace Gherkin

/-!
# The construct that reads on

In a feature one construct at a time reads on: the description of the feature,
the body of its background or last scenario, or the last examples block of its
last scenario.  Each of the relations below names such a construct together with
the function that puts another one in its place, so that what a line does to the
construct can be carried over to the feature without going through its layers.
-/

/-- What a body belongs to. -/
inductive Body.Owner
  | background
  | scenario
  | outline
deriving DecidableEq

namespace Feature.Draft

/-- The body to which the lines of a feature go, with its owner and with what becomes of
the feature when the body changes. -/
inductive Current : Feature.Draft → Body.Owner → Body.Draft → (Body.Draft → Feature.Draft) → Prop
  | background {feature : Feature.Draft} {background : Background.Draft}
      (scenarios : feature.scenarios = []) (present : feature.background = some background) :
      Current feature .background background.body
        fun body => { feature with background := some { background with body := body } }
  | scenario {feature : Feature.Draft} {scenario : Scenario.Draft} {earlier : List Scenario.Draft}
      (scenarios : feature.scenarios = scenario :: earlier) (examples : scenario.examples = [])
      (plain : scenario.isOutline = false) :
      Current feature .scenario scenario.body
        fun body => { feature with scenarios := { scenario with body := body } :: earlier }
  | outline {feature : Feature.Draft} {scenario : Scenario.Draft} {earlier : List Scenario.Draft}
      (scenarios : feature.scenarios = scenario :: earlier) (examples : scenario.examples = [])
      (isOutline : scenario.isOutline = true) :
      Current feature .outline scenario.body
        fun body => { feature with scenarios := { scenario with body := body } :: earlier }

/-- The examples block to which the lines of a feature go. -/
inductive Latest : Feature.Draft → Examples.Draft → (Examples.Draft → Feature.Draft) → Prop
  | examples {feature : Feature.Draft} {scenario : Scenario.Draft} {earlier : List Scenario.Draft}
      {block : Examples.Draft} {blocks : List Examples.Draft}
      (scenarios : feature.scenarios = scenario :: earlier) (isOutline : scenario.isOutline = true)
      (closed : scenario.inDocString = false) (examples : scenario.examples = block :: blocks) :
      Latest feature block
        fun block => { feature with scenarios := { scenario with examples := block :: blocks } :: earlier }

variable {dialect : Dialect} {line : Line} {feature later : Feature.Draft} {faults : List Fault}
  {owner : Body.Owner} {body next : Body.Draft} {put : Body.Draft → Feature.Draft}
  {block other : Examples.Draft} {set : Examples.Draft → Feature.Draft}

namespace Current

theorem inDocString_eq (current : Current feature owner body put) :
    feature.inDocString = body.inDocString := by
  cases current with
  | background scenarios present => exact inDocString_of_background scenarios present
  | scenario scenarios examples plain => exact inDocString_of_scenarios scenarios
  | outline scenarios examples isOutline => exact inDocString_of_scenarios scenarios

/-- The changed body is read on. -/
theorem after (current : Current feature owner body put) (next : Body.Draft) :
    Current (put next) owner next put := by
  cases current with
  | @background background scenarios present =>
      exact @Current.background { feature with background := some { background with body := next } }
        { background with body := next } scenarios rfl
  | @scenario scenario earlier scenarios examples plain =>
      exact @Current.scenario
        { feature with scenarios := { scenario with body := next } :: earlier }
        { scenario with body := next } earlier rfl examples plain
  | @outline scenario earlier scenarios examples isOutline =>
      exact @Current.outline
        { feature with scenarios := { scenario with body := next } :: earlier }
        { scenario with body := next } earlier rfl examples isOutline

/-- The lines of the body are lines of the feature, and there are no others. -/
theorem takes_iff (current : Current feature owner body put) :
    Takes dialect line feature later faults ↔
      ∃ next, later = put next ∧ Body.Draft.Takes dialect line body next faults := by
  constructor
  · intro taken
    cases current with
    | background scenarios present =>
        cases taken with
        | scenario listed | examples listed => exact absurd (scenarios.symm.trans listed) nofun
        | background _ found taken =>
            cases present.symm.trans found
            exact ⟨_, rfl, taken⟩
        | description _ absent => exact absurd (present.symm.trans absent) nofun
    | scenario scenarios examples | outline scenarios examples =>
        cases taken with
        | scenario listed inBody taken =>
            cases scenarios.symm.trans listed
            exact ⟨_, rfl, taken⟩
        | examples listed outside blocks taken =>
            cases scenarios.symm.trans listed
            exact absurd (examples.symm.trans blocks) nofun
        | background none | description none => exact absurd (scenarios.symm.trans none) nofun
  · rintro ⟨next, rfl, taken⟩
    cases current with
    | background scenarios present => exact .background scenarios present taken
    | scenario scenarios examples plain => exact .scenario scenarios (.inr examples) taken
    | outline scenarios examples isOutline => exact .scenario scenarios (.inr examples) taken

end Current

namespace Latest

theorem inDocString_eq (latest : Latest feature block set) : feature.inDocString = false := by
  cases latest with
  | examples scenarios isOutline closed => exact (inDocString_of_scenarios scenarios).trans closed

theorem after (latest : Latest feature block set) (other : Examples.Draft) :
    Latest (set other) other set := by
  cases latest with
  | @examples scenario earlier _ blocks scenarios isOutline closed examples =>
      exact @Latest.examples
        { feature with scenarios := { scenario with examples := other :: blocks } :: earlier }
        { scenario with examples := other :: blocks } earlier other blocks rfl isOutline closed rfl

theorem takes_iff (latest : Latest feature block set) :
    Takes dialect line feature later faults ↔
      ∃ other, later = set other ∧ block.add dialect line = .ok (other, faults) := by
  cases latest with
  | examples scenarios isOutline closed examples =>
      constructor
      · intro taken
        cases taken with
        | scenario listed inBody taken =>
            cases scenarios.symm.trans listed
            rcases inBody with inside | none
            · exact absurd (closed.symm.trans inside) nofun
            · exact absurd (examples.symm.trans none) nofun
        | examples listed outside blocks taken =>
            cases scenarios.symm.trans listed
            cases examples.symm.trans blocks
            exact ⟨_, rfl, taken⟩
        | background none | description none => exact absurd (scenarios.symm.trans none) nofun
      · rintro ⟨other, rfl, taken⟩
        exact .examples scenarios closed examples taken

end Latest

end Feature.Draft
end Gherkin
