import Gherkin.Proofs.Document.DocStrings
import Gherkin.Proofs.Reading.Transition

namespace Gherkin

/-!
# Changes that the reader does not notice

While no doc-string is open, the reader asks of a doc-string that it read before
only whether it is there.  So doc-strings can be changed before a line is read or
after it, and the result is the same.  The line is refused in one case if it is
refused in the other, with the same list of what was expected.

Every layer of the reader hands a line on to the construct that was opened last
and puts the result back in place.  Each lemma below says of one layer that the
change passes through it.
-/

/-- A change of doc-strings that closes none, opens none again, and does nothing to one of which
only the opening line was read. -/
structure DocString.Draft.Unnoticed (change : Draft → Draft) : Prop where
  isOpen_eq : ∀ docString, (change docString).isOpen = docString.isOpen
  opening_eq : ∀ opening, change ⟨opening, [], true⟩ = ⟨opening, [], true⟩

theorem DocString.Draft.unnoticed_id : Unnoticed id where
  isOpen_eq _ := rfl
  opening_eq _ := rfl

section

variable {change : DocString.Draft → DocString.Draft} {dialect : Dialect} {line : Line}

/-! ## Steps -/

namespace Step.Draft

theorem inDocString_mapDocStrings (unnoticed : DocString.Draft.Unnoticed change) (step : Draft) :
    (step.mapDocStrings change).inDocString = step.inDocString := by
  cases begun : step.docString <;>
    simp [mapDocStrings, inDocString, DocString.inProgress, begun, unnoticed.isOpen_eq]

theorem accepts_mapDocStrings (unnoticed : DocString.Draft.Unnoticed change) (step : Draft) :
    (step.mapDocStrings change).accepts dialect line = step.accepts dialect line := by
  cases begun : step.docString <;> simp [mapDocStrings, accepts, begun, unnoticed.isOpen_eq]

theorem mapDocStrings_of_onLine? {start : Draft} (starts : onLine? dialect line = some start) :
    start.mapDocStrings change = start := by
  have free := free_of_onLine? starts
  rcases start with ⟨kind, keyword, text, location, table, docString⟩
  cases free
  rfl

theorem add_mapDocStrings (unnoticed : DocString.Draft.Unnoticed change) {step : Draft}
    (outside : step.inDocString = false) (accepted : step.accepts dialect line = true) :
    (step.mapDocStrings change).add dialect line =
      ((step.add dialect line).1.mapDocStrings change, (step.add dialect line).2) := by
  have free := free_of_accepts outside accepted
  have opened : (DocString.Draft.extend dialect.separators none line).map change =
      DocString.Draft.extend dialect.separators none line := by
    simp [DocString.Draft.extend, Function.comp_def, unnoticed.opening_eq]
  simp only [add, inDocString_mapDocStrings unnoticed]
  split_ifs <;> simp [mapDocStrings, free, opened]

end Step.Draft

/-! ## Bodies -/

namespace Body.Draft

theorem inDocString_mapDocStrings (unnoticed : DocString.Draft.Unnoticed change) (body : Draft) :
    (body.mapDocStrings change).inDocString = body.inDocString := by
  cases steps : body.steps with
  | nil => simp [mapDocStrings, inDocString, Step.Sequence.inDocString, steps]
  | cons step earlier =>
      simp [mapDocStrings, inDocString, Step.Sequence.inDocString, steps,
        Step.Draft.inDocString_mapDocStrings unnoticed]

theorem continue?_mapDocStrings (unnoticed : DocString.Draft.Unnoticed change) {body : Draft}
    (outside : body.inDocString = false) :
    (body.mapDocStrings change).continue? dialect line =
      (body.continue? dialect line).map (Prod.map (mapDocStrings change) id) := by
  cases steps : body.steps with
  | nil =>
      simp only [mapDocStrings, continue?, Step.Sequence.continue?, steps, List.map_nil]
      split_ifs <;> simp [mapDocStrings]
  | cons step earlier =>
      rw [inDocString_of_steps steps] at outside
      simp only [mapDocStrings, continue?, Step.Sequence.continue?, steps, List.map_cons,
        Step.Draft.accepts_mapDocStrings unnoticed]
      split_ifs with accepted
      · rw [Step.Draft.add_mapDocStrings unnoticed outside accepted]
        simp [mapDocStrings]
      · simp [mapDocStrings]
      · rfl

theorem add_mapDocStrings (unnoticed : DocString.Draft.Unnoticed change) {body : Draft}
    (outside : body.inDocString = false) :
    (body.mapDocStrings change).add dialect line =
      (body.add dialect line).map (Prod.map (mapDocStrings change) id) := by
  simp only [add, inDocString_mapDocStrings unnoticed, outside, continue?_mapDocStrings unnoticed outside,
    Step.Sequence.start?]
  cases starts : Step.Draft.onLine? dialect line with
  | some start => simp [mapDocStrings, Step.Draft.mapDocStrings_of_onLine? starts]
  | none =>
      simp only [mapDocStrings, List.isEmpty_map, Option.map_none, Bool.false_eq_true, if_false]
      split_ifs with begun <;> simp_all [mapDocStrings]

end Body.Draft

/-! ## Backgrounds and scenarios -/

theorem Background.Draft.expected_mapDocStrings (background : Background.Draft) :
    (background.mapDocStrings change).expected = background.expected := by
  simp only [mapDocStrings, expected, Body.Draft.mapDocStrings, List.isEmpty_map]

theorem Background.Draft.add_mapDocStrings (unnoticed : DocString.Draft.Unnoticed change)
    {background : Background.Draft} (outside : background.inDocString = false) :
    (background.mapDocStrings change).add dialect line =
      (background.add dialect line).within (mapDocStrings change) := by
  have body : (background.body.mapDocStrings change).add dialect line = _ :=
    Body.Draft.add_mapDocStrings unnoticed outside
  rw [add, mapDocStrings, body, add]
  cases background.body.add dialect line with
  | some result => rfl
  | none => exact congrArg Except.error (expected_mapDocStrings background)

namespace Scenario.Draft

theorem inDocString_mapDocStrings (unnoticed : DocString.Draft.Unnoticed change) (scenario : Draft) :
    (scenario.mapDocStrings change).inDocString = scenario.inDocString :=
  Body.Draft.inDocString_mapDocStrings unnoticed scenario.body

theorem expected_mapDocStrings (scenario : Draft) :
    (scenario.mapDocStrings change).expected = scenario.expected := by
  cases steps : scenario.body.steps <;>
    simp [mapDocStrings, expected, Body.Draft.mapDocStrings, steps]

theorem addExamples_mapDocStrings (tags : List Tag) (scenario : Draft) :
    (scenario.mapDocStrings change).addExamples dialect tags line =
      (scenario.addExamples dialect tags line).within (mapDocStrings change) := by
  rw [addExamples, expected_mapDocStrings, addExamples]
  cases outline : scenario.isOutline <;> simp [mapDocStrings, outline]

theorem add_mapDocStrings (unnoticed : DocString.Draft.Unnoticed change) {scenario : Draft}
    (outside : scenario.inDocString = false) :
    (scenario.mapDocStrings change).add dialect line =
      (scenario.add dialect line).within (mapDocStrings change) := by
  have body : (scenario.mapDocStrings change).body.add dialect line = _ :=
    Body.Draft.add_mapDocStrings unnoticed outside
  simp only [add, inDocString_mapDocStrings unnoticed, outside, expected_mapDocStrings, body]
  cases examples : scenario.examples with
  | nil =>
      simp only [mapDocStrings, examples]
      cases scenario.body.add dialect line <;> rfl
  | cons block earlier =>
      simp only [mapDocStrings, examples]
      cases block.add dialect line <;> rfl

end Scenario.Draft

/-! ## Features -/

namespace Feature.Draft

theorem inDocString_mapDocStrings (unnoticed : DocString.Draft.Unnoticed change) (feature : Draft) :
    (feature.mapDocStrings change).inDocString = feature.inDocString := by
  cases scenarios : feature.scenarios with
  | cons scenario earlier =>
      simp [mapDocStrings, inDocString, scenarios, Scenario.Draft.inDocString_mapDocStrings unnoticed]
  | nil =>
      cases present : feature.background with
      | none => simp [mapDocStrings, inDocString, scenarios, present]
      | some background =>
          simp [mapDocStrings, inDocString, scenarios, present, Background.Draft.mapDocStrings,
            Background.Draft.inDocString, Body.Draft.inDocString_mapDocStrings unnoticed]

theorem inHeader_mapDocStrings (feature : Draft) :
    (feature.mapDocStrings change).inHeader = feature.inHeader := by
  simp only [mapDocStrings, inHeader, Option.isNone_map, List.isEmpty_map]

theorem expected_mapDocStrings (feature : Draft) :
    (feature.mapDocStrings change).expected = feature.expected := by
  cases scenarios : feature.scenarios with
  | cons scenario earlier =>
      simp [mapDocStrings, expected, scenarios, Scenario.Draft.expected_mapDocStrings]
  | nil =>
      cases present : feature.background <;>
        simp [mapDocStrings, expected, scenarios, present, Background.Draft.expected_mapDocStrings]

theorem addBackground_mapDocStrings (feature : Draft) :
    (feature.mapDocStrings change).addBackground dialect line =
      (feature.addBackground dialect line).within (mapDocStrings change) := by
  rw [addBackground, inHeader_mapDocStrings, expected_mapDocStrings, addBackground]
  split_ifs <;> rfl

theorem addExamples_mapDocStrings (tags : List Tag) (feature : Draft) :
    (feature.mapDocStrings change).addExamples dialect tags line =
      (feature.addExamples dialect tags line).within (mapDocStrings change) := by
  cases scenarios : feature.scenarios with
  | nil =>
      simp only [addExamples, expected_mapDocStrings, scenarios]
      simp [mapDocStrings, scenarios]
  | cons scenario earlier =>
      simp only [addExamples, mapDocStrings, scenarios, List.map_cons,
        Scenario.Draft.addExamples_mapDocStrings]
      cases scenario.addExamples dialect tags line <;> simp [mapDocStrings]

theorem add_mapDocStrings (unnoticed : DocString.Draft.Unnoticed change) {feature : Draft}
    (outside : feature.inDocString = false) :
    (feature.mapDocStrings change).add dialect line =
      (feature.add dialect line).within (mapDocStrings change) := by
  cases scenarios : feature.scenarios with
  | cons scenario earlier =>
      rw [inDocString_of_scenarios scenarios] at outside
      simp only [add, mapDocStrings, scenarios, List.map_cons,
        Scenario.Draft.add_mapDocStrings unnoticed outside]
      cases scenario.add dialect line <;> simp [mapDocStrings]
  | nil =>
      cases present : feature.background with
      | some background =>
          rw [inDocString_of_background scenarios present] at outside
          simp only [add, mapDocStrings, scenarios, present, List.map_nil, Option.map_some,
            Background.Draft.add_mapDocStrings unnoticed outside]
          cases background.add dialect line <;> simp [mapDocStrings]
      | none =>
          simp only [add, mapDocStrings, scenarios, present, List.map_nil, Option.map_none]
          split_ifs
          · rfl
          · simp [mapDocStrings]

end Feature.Draft

/-! ## Documents -/

namespace Document.Draft

theorem inDocString_mapDocStrings (unnoticed : DocString.Draft.Unnoticed change) (draft : Draft) :
    (draft.mapDocStrings change).inDocString = draft.inDocString := by
  cases present : draft.feature <;>
    simp [mapDocStrings, inDocString, present, Feature.Draft.inDocString_mapDocStrings unnoticed]

theorem expected_mapDocStrings (draft : Draft) :
    (draft.mapDocStrings change).expected = draft.expected := by
  cases present : draft.feature <;>
    simp [mapDocStrings, expected, present, Feature.Draft.expected_mapDocStrings]

theorem expectedAfterTags_mapDocStrings (draft : Draft) :
    (draft.mapDocStrings change).expectedAfterTags = draft.expectedAfterTags := by
  simp only [mapDocStrings, expectedAfterTags, Option.isSome_map]

theorem addToFeature_mapDocStrings (unnoticed : DocString.Draft.Unnoticed change) {draft : Draft}
    (outside : draft.inDocString = false) :
    (draft.mapDocStrings change).addToFeature dialect line =
      (draft.addToFeature dialect line).within (mapDocStrings change) := by
  cases present : draft.feature with
  | none =>
      simp only [addToFeature, expected_mapDocStrings, present]
      simp only [mapDocStrings, present, Option.map_none]
      split_ifs <;> simp [mapDocStrings, present]
  | some feature =>
      rw [inDocString_of_feature present] at outside
      simp only [addToFeature, mapDocStrings, present, Option.map_some,
        Feature.Draft.add_mapDocStrings unnoticed outside]
      cases feature.add dialect line <;> simp [mapDocStrings]

theorem openConstruct_mapDocStrings (draft : Draft) :
    (draft.mapDocStrings change).openConstruct dialect line =
      (draft.openConstruct dialect line).within (mapDocStrings change) := by
  have enclosed (reading : Reading Feature.Draft) :
      (reading.within (Feature.Draft.mapDocStrings change)).within (draft.mapDocStrings change).withFeature =
        (reading.within draft.withFeature).within (mapDocStrings change) := by
    cases reading <;> rfl
  have pending : (draft.mapDocStrings change).pending = draft.pending := rfl
  cases present : draft.feature with
  | none =>
      have absent : (draft.mapDocStrings change).feature = none := by simp [mapDocStrings, present]
      simp only [openConstruct, present, absent, expected_mapDocStrings, pending]
      cases dialect.role line <;> rfl
  | some feature =>
      have mapped : (draft.mapDocStrings change).feature = some (feature.mapDocStrings change) := by
        simp [mapDocStrings, present]
      have scenario : (feature.mapDocStrings change).addScenario dialect draft.pending.tags line =
          (feature.addScenario dialect draft.pending.tags line).within
            (Feature.Draft.mapDocStrings change) := rfl
      simp only [openConstruct, present, mapped, expected_mapDocStrings, pending]
      cases dialect.role line with
      | background => simp only [Feature.Draft.addBackground_mapDocStrings, enclosed]
      | scenario | scenarioOutline => simp only [scenario, enclosed]
      | examples => simp only [Feature.Draft.addExamples_mapDocStrings, enclosed]
      | _ => rfl

/-- Outside of doc-strings the change can be made before or after a line is read. -/
theorem place_mapDocStrings (unnoticed : DocString.Draft.Unnoticed change) {draft : Draft}
    (outside : draft.inDocString = false) :
    (draft.mapDocStrings change).place dialect line =
      (draft.place dialect line).within (mapDocStrings change) := by
  have pending : (draft.mapDocStrings change).pending = draft.pending := rfl
  simp only [place, inDocString_mapDocStrings unnoticed, outside, expectedAfterTags_mapDocStrings,
    openConstruct_mapDocStrings, addToFeature_mapDocStrings unnoticed outside, pending]
  split_ifs <;> rfl

end Document.Draft

end

end Gherkin
