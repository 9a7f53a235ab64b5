import Gherkin.Proofs.Reading.Transition
import Gherkin.Proofs.Text.Lines

namespace Gherkin

/-!
# Blank lines

Outside doc-strings a blank line is taken up wherever it stands.  A description
keeps it until the description is finished, and drops it then if it stands at an
end; everywhere else it leaves no trace at all.
-/

namespace Description

variable {draft : Description.Draft}

theorem finish_eq_of_innerLines {other : Description.Draft}
    (same : Text.innerLines draft.reverse = Text.innerLines other.reverse) :
    draft.finish = other.finish := by
  rw [Draft.finish, Draft.finish, same]

/-- A blank line behind the description changes nothing. -/
theorem finish_add_blank {line : Line} (white : line.isBlank = true) :
    (draft.add line).finish = draft.finish := by
  apply finish_eq_of_innerLines
  rw [Draft.add, List.reverse_cons]
  refine Text.innerLines_append_blank fun text listed => ?_
  rw [List.mem_singleton.mp listed, Text.trimEnd_eq_nil_iff.mpr white]
  rfl

end Description

namespace Feature.Draft

variable {dialect : Dialect} {line : Line} {own : Feature.Draft}

/-- Whether the last scenario can have examples. -/
def inOutline (draft : Feature.Draft) : Bool :=
  draft.scenarios.head?.any Scenario.Draft.isOutline

private theorem takes_blank_in_body (dialect : Dialect) {body : Body.Draft} (white : line.isBlank = true)
    (outside : body.inDocString = false) :
    ∃ next : Body.Draft, Body.Draft.Takes dialect line body next [] ∧
      next.description.finish = body.description.finish ∧ next.steps = body.steps := by
  cases steps : body.steps with
  | cons step earlier => exact ⟨body, .blank steps outside white, rfl, steps⟩
  | nil =>
      have role := Dialect.role_of_isBlank dialect white
      have silent : (dialect.role line).isStep = false := by rw [role]; rfl
      have free : dialect.isArgument line = false := by
        simp [Dialect.isArgument, role, Dialect.isSeparator_of_isBlank white]
      exact ⟨_, .description steps silent free, Description.finish_add_blank white, steps⟩

private theorem add_blank_in_examples (dialect : Dialect) (block : Examples.Draft) (white : line.isBlank = true) :
    ∃ next : Examples.Draft, block.add dialect line = .ok (next, []) ∧ next.finish = block.finish := by
  have role := Dialect.role_of_isBlank dialect white
  cases begun : block.table with
  | some table => exact ⟨block, by simp [Examples.Draft.add, role, begun, white], rfl⟩
  | none =>
      refine ⟨{ block with description := block.description.add line }, ?_, ?_⟩
      · simp [Examples.Draft.add, role, begun, Role.isStep]
      · simp only [Examples.Draft.finish, Description.finish_add_blank white]

/-- A blank line is taken up wherever no doc-string is open and changes nothing that is kept. -/
theorem exists_takes_blank (dialect : Dialect) (white : line.isBlank = true) (outside : own.inDocString = false) :
    ∃ next : Feature.Draft, Takes dialect line own next [] ∧ next.inOutline = own.inOutline ∧
      next.inDocString = false ∧ ∀ code, next.finish code = own.finish code := by
  have role := Dialect.role_of_isBlank dialect white
  cases scenarios : own.scenarios with
  | cons scenario earlier =>
      have shut : scenario.inDocString = false :=
        (inDocString_of_scenarios scenarios).symm.trans outside
      cases examples : scenario.examples with
      | nil =>
          rcases takes_blank_in_body dialect white shut with ⟨body, taken, description, steps⟩
          refine ⟨_, .scenario scenarios (.inr examples) taken, ?_, ?_, fun code => ?_⟩
          · simp [inOutline, scenarios]
          · simp only [inDocString, Scenario.Draft.inDocString, Body.Draft.inDocString, steps]
            exact shut
          · simp [finish, scenarios, Scenario.Draft.finish, description, steps]
      | cons block blocks =>
          rcases add_blank_in_examples dialect block white with
            ⟨next, taken, same⟩
          refine ⟨_, .examples scenarios shut examples taken, ?_, shut, fun code => ?_⟩
          · simp [inOutline, scenarios]
          · simp [finish, scenarios, Scenario.Draft.finish, examples, same]
  | nil =>
      cases present : own.background with
      | some background =>
          have shut : background.inDocString = false :=
            (inDocString_of_background scenarios present).symm.trans outside
          rcases takes_blank_in_body dialect white shut with ⟨body, taken, description, steps⟩
          refine ⟨_, .background scenarios present taken, ?_, ?_, fun code => ?_⟩
          · simp [inOutline, scenarios]
          · simp only [inDocString, scenarios, Option.any_some, Background.Draft.inDocString,
              Body.Draft.inDocString, steps]
            exact shut
          · simp [finish, present, Background.Draft.finish, description, steps]
      | none =>
          have silent : (dialect.role line).isStep = false := by rw [role]; rfl
          have free : dialect.isArgument line = false := by
            simp [Dialect.isArgument, role, Dialect.isSeparator_of_isBlank white]
          refine ⟨_, .description scenarios present silent free, ?_, ?_, fun code => ?_⟩
          · simp [inOutline, scenarios]
          · simp [inDocString, scenarios, present]
          · simp [finish, Description.finish_add_blank white]

end Feature.Draft

end Gherkin
