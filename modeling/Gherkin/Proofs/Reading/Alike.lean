import Gherkin.Proofs.Reading.LineEnds
import Gherkin.Proofs.Reading.Transition

namespace Gherkin

open Text (trimEnd)

/-!
# Lines that are read alike

Two lines are alike if they differ at most in the whitespace at their ends.  While
no doc-string is open, the reader does the same with both of them.
-/

/-- The lines have the same number, differ only in the whitespace at their ends, and give the same
comment, to which that whitespace would belong. -/
structure Line.Alike (line other : Line) : Prop where
  number_eq : other.number = line.number
  trimEnd_eq : trimEnd other.text = trimEnd line.text
  comment_eq : Comment.onLine other = Comment.onLine line

namespace Line.Alike

variable {line other : Line}

theorem refl (line : Line) : line.Alike line :=
  ⟨rfl, rfl, rfl⟩

theorem isBlank_eq (alike : line.Alike other) : other.isBlank = line.isBlank := by
  rw [Line.isBlank, ← Text.isBlank_trimEnd, alike.trimEnd_eq, Text.isBlank_trimEnd, Line.isBlank]

theorem trimmed_eq (alike : line.Alike other) : other.trimmed = line.trimmed := by
  rw [Line.trimmed, ← Text.trim_trimEnd, alike.trimEnd_eq, Text.trim_trimEnd, Line.trimmed]

theorem locationAt_eq (alike : line.Alike other) (offset : Nat) :
    other.locationAt offset = line.locationAt offset := by
  rw [locationAt, locationAt, alike.number_eq]

theorem location_eq (alike : line.Alike other) (solid : line.isBlank = false) :
    other.location = line.location := by
  have indent : other.indent = line.indent := by
    rw [Line.indent, ← Text.indent_trimEnd (alike.isBlank_eq.trans solid), alike.trimEnd_eq,
      Text.indent_trimEnd solid, Line.indent]
  rw [location, location, indent, alike.locationAt_eq]

theorem classify_eq (alike : line.Alike other) (language : Language) :
    other.classify language = line.classify language :=
  Classification.ofText_congr alike.trimmed_eq

theorem role_eq (alike : line.Alike other) (dialect : Dialect) :
    dialect.role other = dialect.role line :=
  congrArg Classification.role (alike.classify_eq dialect.language)

theorem isSeparator_eq (alike : line.Alike other) (dialect : Dialect) :
    dialect.isSeparator other = dialect.isSeparator line := by
  rw [Dialect.isSeparator, alike.trimmed_eq, Dialect.isSeparator]

theorem isArgument_eq (alike : line.Alike other) (dialect : Dialect) :
    dialect.isArgument other = dialect.isArgument line := by
  rw [Dialect.isArgument, alike.role_eq, alike.isSeparator_eq, Dialect.isArgument]

theorem heading_eq (alike : line.Alike other) (solid : line.isBlank = false) (language : Language) :
    Heading.onLine language other = Heading.onLine language line := by
  simp only [Heading.onLine, alike.classify_eq, textAfter, alike.trimmed_eq, alike.location_eq solid]

theorem step_eq (alike : line.Alike other) (dialect : Dialect) :
    Step.Draft.onLine? dialect other = Step.Draft.onLine? dialect line := by
  cases white : line.isBlank with
  | true =>
      have plain : ∀ dark : Line, dark.isBlank = true → Step.Draft.onLine? dialect dark = none := by
        intro dark blank
        have role : (dark.classify dialect.language).role = .plain :=
          Dialect.role_of_isBlank dialect blank
        simp only [Step.Draft.onLine?, role]
      rw [plain line white, plain other (alike.isBlank_eq.trans white)]
  | false =>
      simp only [Step.Draft.onLine?, alike.classify_eq, textAfter, alike.trimmed_eq,
        alike.location_eq white]

theorem opening_eq (alike : line.Alike other) (separators : Separators) :
    DocString.Opening.onLine? separators other = DocString.Opening.onLine? separators line := by
  cases white : line.isBlank with
  | true =>
      simp only [DocString.Opening.onLine?, alike.trimmed_eq, trimmed_of_isBlank white,
        Separators.matching?_nil, Option.map_none]
  | false =>
      have indent : other.indent = line.indent := by
        have columns := congrArg Location.column (alike.location_eq white)
        exact Nat.succ.inj columns
      simp only [DocString.Opening.onLine?, alike.trimmed_eq, alike.location_eq white, indent]

theorem tags_eq (alike : line.Alike other) : Tag.onLine other = Tag.onLine line := by
  rw [Tag.onLine_eq, Tag.onLine_eq, Tag.pieces_ignoresEnd.eq_of_trimEnd alike.trimEnd_eq]
  simp only [alike.locationAt_eq]

theorem faults_eq (alike : line.Alike other) : Tag.faultsOnLine other = Tag.faultsOnLine line := by
  rw [Tag.faultsOnLine_eq, Tag.faultsOnLine_eq,
    Tag.pieces_ignoresEnd.eq_of_trimEnd alike.trimEnd_eq]
  simp only [alike.locationAt_eq]

theorem table_eq (alike : line.Alike other) (solid : line.isBlank = false)
    (table : Option Table.Draft) : Table.Draft.add table other = Table.Draft.add table line := by
  have solidOther := alike.isBlank_eq.trans solid
  have row : Row.onLine other = Row.onLine line := by
    rw [← Row.onLine_trimEnd solid line.number, ← alike.trimEnd_eq, ← alike.number_eq,
      Row.onLine_trimEnd solidOther other.number]
  have bar : Row.barLocation other = Row.barLocation line := by
    rw [← Row.barLocation_trimEnd solid line.number, ← alike.trimEnd_eq, ← alike.number_eq,
      Row.barLocation_trimEnd solidOther other.number]
  simp only [Table.Draft.add, row, bar]

theorem description_eq (alike : line.Alike other) (description : Description.Draft) :
    description.add other = description.add line :=
  congrArg (· :: description) alike.trimEnd_eq

theorem directive?_eq (alike : line.Alike other) :
    Document.directive? other = Document.directive? line := by
  rw [Document.directive?, Document.directive?, alike.number_eq,
    Language.directive?_ignoresEnd.eq_of_trimEnd alike.trimEnd_eq]

end Line.Alike

/-! ## Reading either line -/

variable {dialect : Dialect} {line other : Line}


theorem Step.Draft.accepts_eq_of_alike (alike : line.Alike other) (step : Step.Draft) :
    step.accepts dialect other = step.accepts dialect line := by
  simp only [accepts, alike.role_eq, alike.isSeparator_eq]

theorem Step.Draft.add_eq_of_alike (alike : line.Alike other) {step : Step.Draft}
    (outside : step.inDocString = false) (accepted : step.accepts dialect line = true) :
    step.add dialect other = step.add dialect line := by
  have free := free_of_accepts outside accepted
  have solid : line.isBlank = false := by
    refine Bool.eq_false_iff.mpr fun white => ?_
    simp [accepts, free, Dialect.role_of_isBlank dialect white,
      Dialect.isSeparator_of_isBlank white] at accepted
  simp only [add, outside, alike.isSeparator_eq, alike.table_eq solid, free,
    DocString.Draft.extend, alike.opening_eq]

theorem Step.Sequence.continue?_eq_of_alike (alike : line.Alike other) {steps : Step.Sequence}
    (outside : steps.inDocString = false) :
    steps.continue? dialect other = steps.continue? dialect line := by
  cases steps with
  | nil => simp only [continue?, alike.isBlank_eq]
  | cons step earlier =>
      simp only [continue?, Step.Draft.accepts_eq_of_alike alike, alike.isBlank_eq]
      split_ifs with accepted
      · rw [Step.Draft.add_eq_of_alike alike outside accepted]
      · rfl
      · rfl

theorem Body.Draft.add_eq_of_alike (alike : line.Alike other) {body : Body.Draft}
    (outside : body.inDocString = false) : body.add dialect other = body.add dialect line := by
  have further : body.continue? dialect other = body.continue? dialect line := by
    rw [continue?, continue?, Step.Sequence.continue?_eq_of_alike alike outside]
  simp only [add, outside, further, Step.Sequence.start?, alike.step_eq, alike.isArgument_eq,
    alike.description_eq]

theorem Examples.Draft.add_eq_of_alike (alike : line.Alike other) (block : Examples.Draft) :
    block.add dialect other = block.add dialect line := by
  simp only [add, alike.role_eq, alike.isBlank_eq, alike.description_eq]
  split_ifs with row
  · rw [alike.table_eq (Dialect.isBlank_of_role (by rw [row]; decide))]
  all_goals rfl

theorem Scenario.Draft.add_eq_of_alike (alike : line.Alike other) {scenario : Scenario.Draft}
    (outside : scenario.inDocString = false) :
    scenario.add dialect other = scenario.add dialect line := by
  simp only [add, outside, Body.Draft.add_eq_of_alike alike outside,
    Examples.Draft.add_eq_of_alike alike]

theorem Feature.Draft.add_eq_of_alike (alike : line.Alike other) {feature : Feature.Draft}
    (outside : feature.inDocString = false) :
    feature.add dialect other = feature.add dialect line := by
  cases scenarios : feature.scenarios with
  | cons scenario earlier =>
      rw [inDocString_of_scenarios scenarios] at outside
      simp only [add, scenarios, Scenario.Draft.add_eq_of_alike alike outside]
  | nil =>
      cases present : feature.background with
      | some background =>
          rw [inDocString_of_background scenarios present] at outside
          simp only [add, scenarios, present, Background.Draft.add,
            Body.Draft.add_eq_of_alike alike outside]
      | none =>
          simp only [add, scenarios, present, alike.role_eq, alike.isArgument_eq, alike.description_eq]

namespace Document.Draft

variable {draft : Draft}

theorem addToFeature_eq_of_alike (alike : line.Alike other) (outside : draft.inDocString = false) :
    draft.addToFeature dialect other = draft.addToFeature dialect line := by
  cases present : draft.feature with
  | none => simp only [addToFeature, present, alike.isBlank_eq]
  | some feature =>
      rw [inDocString_of_feature present] at outside
      simp only [addToFeature, present, Feature.Draft.add_eq_of_alike alike outside]

theorem openConstruct_eq_of_alike (alike : line.Alike other)
    (opens : (dialect.role line).takesColon = true) :
    draft.openConstruct dialect other = draft.openConstruct dialect line := by
  have solid : line.isBlank = false :=
    Dialect.isBlank_of_role fun plain => by rw [plain] at opens; cases opens
  simp only [openConstruct, alike.role_eq, Feature.Draft.onLine, Feature.Draft.addBackground,
    Background.Draft.onLine, Feature.Draft.addScenario, Scenario.Draft.onLine,
    Feature.Draft.addExamples, Scenario.Draft.addExamples, Examples.Draft.onLine,
    alike.heading_eq solid]

/-- Outside of doc-strings whitespace at the end of a line makes no difference. -/
theorem place_eq_of_alike (alike : line.Alike other) (outside : draft.inDocString = false) :
    draft.place dialect other = draft.place dialect line := by
  simp only [place, outside, alike.role_eq, alike.isBlank_eq, alike.comment_eq, PendingTags.add,
    alike.tags_eq, alike.faults_eq, addToFeature_eq_of_alike alike outside]
  cases opens : (dialect.role line).takesColon with
  | true => rw [openConstruct_eq_of_alike alike opens]
  | false => rfl

end Document.Draft

end Gherkin
