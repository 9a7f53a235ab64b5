import Gherkin.Proofs.Reading.Atomicity
import Gherkin.Proofs.Reading.Transition

namespace Gherkin

/-!
# Readers follow the rules

How far a reader is can be told from what it has read: a description has ended if there
is a step or a row, and the construct that was opened last is the last one that there is.
So a draft determines the reader that has read as much as the draft holds.  Reading a
line leads from such a reader to such a reader again, and to the one that belongs to what
the rules make of the draft.

A refusal by the rules says nothing about the draft.  Here it is seen that the readers
leave of it what `settle` says, so that both note the same faults for all lines, and make
the same document of them.
-/

variable {dialect : Dialect} {line : Line}

@[simp] theorem Reading.settle_ok {α : Type} (previous : α) (result : α × List Fault) :
    settle previous line (.ok result) = result :=
  rfl

@[simp] theorem Reading.settle_error {α : Type} (previous : α) (expected : List Text) :
    settle previous line (.error expected) = (previous, [line.mismatch expected]) :=
  rfl

/-! ## Steps -/

namespace Step.Sequence

theorem start_of_starts {steps next : Sequence} (starts : steps.start? dialect line = some next) :
    steps.start dialect line = (next, true) := by
  rcases Option.map_eq_some_iff.mp starts with ⟨step, own, rfl⟩
  rw [start, own]

theorem start_of_other {steps : Sequence} (other : steps.start? dialect line = none) :
    steps.start dialect line = (steps, false) := by
  rw [start, Option.map_eq_none_iff.mp other]

theorem offer_of_taken {steps : Sequence} {result : Sequence × List Fault}
    (taken : steps.continue? dialect line = some result) :
    steps.offer dialect line = ((result.1, true), result.2) := by
  cases steps with
  | nil =>
      simp only [continue?] at taken
      split_ifs at taken with white
      cases taken
      simp [offer, white]
  | cons step earlier =>
      simp only [continue?] at taken
      split_ifs at taken with accepted white <;> cases taken
      · simp [offer, accepted]
      · simp [offer, accepted, white]

theorem offer_of_untaken {steps : Sequence} (untaken : steps.continue? dialect line = none) :
    steps.offer dialect line = ((steps, false), []) := by
  cases steps with
  | nil =>
      simp only [continue?] at untaken
      split_ifs at untaken with white
      simp [offer, white]
  | cons step earlier =>
      simp only [continue?] at untaken
      split_ifs at untaken with accepted white
      simp [offer, accepted, white]

end Step.Sequence

/-! ## Bodies -/

namespace Body.Draft

variable {body next : Body.Draft} {faults : List Fault}

/-- A line of an open doc-string is taken, and goes to a step that was there before. -/
theorem readContent_of_inDocString (dialect : Dialect) (line : Line) (inside : body.inDocString = true) :
    ∃ next faults, body.add dialect line = some (next, faults) ∧
      body.readContent dialect line = (next, faults) ∧ next.steps.isEmpty = body.steps.isEmpty := by
  rcases body with ⟨description, steps⟩
  cases steps with
  | nil => cases inside
  | cons step earlier =>
      have accepted : step.accepts dialect line = true :=
        Step.Draft.accepts_of_inDocString (inDocString_cons.symm.trans inside)
      refine ⟨_, _, ?_, rfl, ?_⟩
      · simp [add, inside, continue?, Step.Sequence.continue?, Step.Sequence.offer, accepted]
      · simp [Step.Sequence.offer, accepted]

/-- A body takes the lines that the rules give to it.  The steps have begun behind the line if
the line starts one, or else if they had begun before it. -/
theorem read_of_added (outside : body.inDocString = false)
    (added : body.add dialect line = some (next, faults)) (expected : List Text) :
    ∃ started, body.read dialect (!body.steps.isEmpty) expected line = ((next, started), faults) ∧
      next.steps.isEmpty = (!started && body.steps.isEmpty) := by
  rcases body with ⟨description, steps⟩
  simp only [add, outside, Bool.false_eq_true, if_false] at added
  cases starts : steps.start? dialect line with
  | some begun =>
      simp only [starts, Option.some.injEq, Prod.mk.injEq] at added
      rcases added with ⟨rfl, rfl⟩
      rcases Option.map_eq_some_iff.mp starts with ⟨step, -, rfl⟩
      exact ⟨true, by simp [read, Step.Sequence.start_of_starts starts], rfl⟩
  | none =>
      have other := Step.Sequence.start_of_other starts
      cases steps with
      | nil =>
          simp [starts] at added
          rcases added with ⟨free, rfl, rfl⟩
          exact ⟨false, by simp [read, other, free], rfl⟩
      | cons step earlier =>
          simp only [starts, List.isEmpty_cons, Bool.not_false, if_true, continue?] at added
          rcases Option.map_eq_some_iff.mp added with ⟨result, taken, same⟩
          cases same
          have offered := Step.Sequence.offer_of_taken taken
          refine ⟨false, by simp [read, other, offered], ?_⟩
          simp only [Step.Sequence.continue?] at taken
          split_ifs at taken <;> cases taken <;> rfl

theorem read_of_refused (refused : body.add dialect line = none) (expected : List Text) :
    body.inDocString = false ∧
      body.read dialect (!body.steps.isEmpty) expected line = ((body, false), [line.mismatch expected]) := by
  have outside : body.inDocString = false := Bool.eq_false_iff.mpr fun inside => by
    rcases readContent_of_inDocString dialect line inside with ⟨next, faults, added, -⟩
    cases refused.symm.trans added
  refine ⟨outside, ?_⟩
  rcases body with ⟨description, steps⟩
  simp only [add, outside, Bool.false_eq_true, if_false] at refused
  cases starts : steps.start? dialect line with
  | some begun => simp [starts] at refused
  | none =>
      have other := Step.Sequence.start_of_other starts
      cases steps with
      | nil =>
          simp [starts] at refused
          simp [read, other, refused]
      | cons step earlier =>
          simp only [starts, List.isEmpty_cons, Bool.not_false, if_true, continue?] at refused
          have offered := Step.Sequence.offer_of_untaken (Option.map_eq_none_iff.mp refused)
          simp [read, other, offered]

end Body.Draft

/-! ## Backgrounds -/

namespace Background.Draft

/-- How far the background was read. -/
def phase (draft : Background.Draft) : Background.Phase :=
  if draft.body.steps.isEmpty then .description else .steps

/-- The reader that has read as much. -/
def reader (draft : Background.Draft) : Background.Reader :=
  ⟨draft.phase, draft.heading, draft.body⟩

@[simp] theorem inDocString_reader (draft : Background.Draft) :
    draft.reader.inDocString = draft.inDocString :=
  rfl

@[simp] theorem finish_reader (draft : Background.Draft) : draft.reader.finish = draft.finish :=
  rfl

@[simp] theorem reader_onLine (dialect : Dialect) (line : Line) :
    (onLine dialect line).reader = .onLine dialect line :=
  rfl

@[simp] theorem expected_reader (draft : Background.Draft) : draft.reader.expected = draft.expected := by
  cases empty : draft.body.steps.isEmpty <;>
    simp [Background.Reader.expected, reader, phase, expected, empty]

theorem begun_reader (draft : Background.Draft) :
    decide (draft.reader.phase ≠ .description) = !draft.body.steps.isEmpty := by
  cases empty : draft.body.steps.isEmpty <;> simp [reader, phase, empty]

theorem read_reader (draft : Background.Draft) (line : Line) :
    draft.reader.read dialect line =
      Prod.map reader id ((draft.add dialect line).settle draft line) := by
  cases inside : draft.inDocString with
  | true =>
      rcases Body.Draft.readContent_of_inDocString dialect line inside with
        ⟨next, faults, added, content, same⟩
      rw [Background.Reader.read, inDocString_reader, if_pos inside]
      simp [add, added, content, reader, phase, same]
  | false =>
      rw [Background.Reader.read, inDocString_reader, if_neg (Bool.eq_false_iff.mp inside), begun_reader,
        expected_reader]
      cases added : draft.body.add dialect line with
      | none =>
          have refused := (Body.Draft.read_of_refused added draft.expected).2
          simp [add, added, refused, reader]
      | some result =>
          rcases Body.Draft.read_of_added inside added draft.expected with ⟨started, taken, empty⟩
          cases started <;> simp [add, added, taken, reader, phase, empty]

end Background.Draft

/-! ## Examples -/

namespace Examples.Draft

/-- How far the examples block was read. -/
def phase (draft : Examples.Draft) : Examples.Phase :=
  if draft.table.isSome then .table else .description

/-- The reader that has read as much. -/
def reader (draft : Examples.Draft) : Examples.Reader :=
  ⟨draft.phase, draft.heading, draft.tags, draft.description, draft.table⟩

@[simp] theorem finish_reader (draft : Examples.Draft) : draft.reader.finish = draft.finish :=
  rfl

@[simp] theorem reader_onLine (dialect : Dialect) (tags : List Tag) (line : Line) :
    (onLine dialect tags line).reader = .onLine dialect tags line :=
  rfl

theorem read_reader (draft : Examples.Draft) (line : Line) :
    draft.reader.read dialect line =
      Prod.map reader id ((draft.add dialect line).settle draft line) := by
  rcases draft with ⟨heading, tags, description, table⟩
  by_cases row : dialect.role line = .tableRow
  · simp [Examples.Reader.read, reader, phase, add, row]
  · cases table with
    | none =>
        cases steps : (dialect.role line).isStep <;>
          simp [Examples.Reader.read, reader, phase, add, row, steps]
    | some table =>
        cases white : line.isBlank <;>
          simp [Examples.Reader.read, reader, phase, add, row, white]

end Examples.Draft

/-! ## Scenarios -/

namespace Scenario.Draft

/-- How far the scenario was read. -/
def phase (draft : Scenario.Draft) : Scenario.Phase :=
  if !draft.examples.isEmpty then .examples
  else if draft.body.steps.isEmpty then .description
  else .steps

/-- The reader that has read as much. -/
def reader (draft : Scenario.Draft) : Scenario.Reader :=
  ⟨draft.phase, draft.heading, draft.tags, draft.isOutline, draft.body,
    draft.examples.map Examples.Draft.reader⟩

@[simp] theorem inDocString_reader (draft : Scenario.Draft) :
    draft.reader.inDocString = draft.inDocString :=
  rfl

@[simp] theorem finish_reader (draft : Scenario.Draft) : draft.reader.finish = draft.finish := by
  simp [Scenario.Reader.finish, finish, reader, ← List.map_reverse]

@[simp] theorem reader_onLine (dialect : Dialect) (tags : List Tag) (line : Line) :
    (onLine dialect tags line).reader = .onLine dialect tags line :=
  rfl

@[simp] theorem expected_reader (draft : Scenario.Draft) : draft.reader.expected = draft.expected := by
  cases examples : draft.examples.isEmpty <;> cases empty : draft.body.steps.isEmpty <;>
    simp [Scenario.Reader.expected, reader, phase, expected, examples, empty]

theorem begun_reader {draft : Scenario.Draft} (examples : draft.examples = []) :
    decide (draft.reader.phase ≠ .description) = !draft.body.steps.isEmpty := by
  cases empty : draft.body.steps.isEmpty <;> simp [reader, phase, examples, empty]

theorem openExamples_reader (draft : Scenario.Draft) (tags : List Tag) (line : Line) :
    draft.reader.openExamples dialect tags line =
      Prod.map reader id ((draft.addExamples dialect tags line).settle draft line) := by
  rcases draft with ⟨heading, own, isOutline, body, examples⟩
  cases isOutline with
  | true => simp [Scenario.Reader.openExamples, addExamples, reader, phase]
  | false =>
      rw [Scenario.Reader.openExamples, if_neg (by exact Bool.false_ne_true), expected_reader]
      simp [addExamples]

theorem read_reader (draft : Scenario.Draft) (line : Line) :
    draft.reader.read dialect line =
      Prod.map reader id ((draft.add dialect line).settle draft line) := by
  cases inside : draft.inDocString with
  | true =>
      rcases Body.Draft.readContent_of_inDocString dialect line inside with
        ⟨next, faults, added, content, same⟩
      rw [Scenario.Reader.read, inDocString_reader, if_pos inside]
      simp [add, inside, added, content, reader, phase, same]
  | false =>
      rw [Scenario.Reader.read, inDocString_reader, if_neg (Bool.eq_false_iff.mp inside)]
      cases examples : draft.examples with
      | cons block earlier =>
          have held : draft.reader.examples = block.reader :: earlier.map Examples.Draft.reader := by
            simp [reader, examples]
          simp only [held, block.read_reader]
          cases read : block.add dialect line <;>
            simp [add, inside, examples, read, reader, phase]
      | nil =>
          have held : draft.reader.examples = [] := by simp [reader, examples]
          simp only [held, begun_reader examples, expected_reader]
          cases added : draft.body.add dialect line with
          | none =>
              have refused := (Body.Draft.read_of_refused added draft.expected).2
              simp [add, inside, examples, added, refused, reader]
          | some result =>
              rcases Body.Draft.read_of_added inside added draft.expected with ⟨started, taken, empty⟩
              cases started <;>
                simp [add, inside, examples, added, taken, reader, phase, empty]

end Scenario.Draft

/-! ## Documents -/

namespace Feature.Draft

/-- How far the document with this feature was read. -/
def phase (feature : Feature.Draft) : Document.Phase :=
  match feature.scenarios, feature.background with
  | _ :: _, _ => .scenarios
  | [], some _ => .background
  | [], none => .header

theorem phase_ne_beforeFeature (feature : Feature.Draft) : feature.phase ≠ .beforeFeature := by
  unfold phase
  split <;> nofun

theorem phase_eq_header_iff (feature : Feature.Draft) :
    feature.phase = .header ↔ feature.inHeader = true := by
  rcases feature with ⟨heading, tags, description, background, scenarios⟩
  cases scenarios <;> cases background <;> simp [phase, inHeader]

end Feature.Draft

namespace Document.Draft

/-- The reader that has read as much. -/
def reader (draft : Draft) : Reader :=
  match draft.feature with
  | none =>
    { Reader.start draft.language with
      lastLine := draft.lastLine
      comments := draft.comments
      pending := draft.pending }
  | some feature =>
    { language := draft.language
      phase := feature.phase
      lastLine := draft.lastLine
      comments := draft.comments
      pending := draft.pending
      header := some ⟨feature.heading, feature.tags⟩
      description := feature.description
      background := feature.background.map Background.Draft.reader
      scenarios := feature.scenarios.map Scenario.Draft.reader }

@[simp] theorem reader_empty (settings : Settings) : (empty settings).reader = .empty settings :=
  rfl

@[simp] theorem language_reader (draft : Draft) : draft.reader.language = draft.language := by
  cases present : draft.feature <;> simp [reader, present, Reader.start]

@[simp] theorem pending_reader (draft : Draft) : draft.reader.pending = draft.pending := by
  cases present : draft.feature <;> simp [reader, present]

@[simp] theorem isSome_header_reader (draft : Draft) :
    draft.reader.header.isSome = draft.feature.isSome := by
  cases present : draft.feature <;> simp [reader, present, Reader.start]

@[simp] theorem expectedAfterTags_reader (draft : Draft) :
    draft.reader.expectedAfterTags = draft.expectedAfterTags := by
  rw [Reader.expectedAfterTags, isSome_header_reader, expectedAfterTags]

@[simp] theorem inDocString_reader (draft : Draft) : draft.reader.inDocString = draft.inDocString := by
  rcases draft with ⟨language, last, comments, pending, _ | ⟨heading, tags, description, background, scenarios⟩⟩
  · rfl
  · cases scenarios with
    | cons scenario earlier => rfl
    | nil => cases background <;> rfl

@[simp] theorem expected_reader (draft : Draft) : draft.reader.expected = draft.expected := by
  rcases draft with ⟨language, last, comments, pending, _ | ⟨heading, tags, description, background, scenarios⟩⟩
  · rfl
  · cases scenarios with
    | cons scenario earlier => exact scenario.expected_reader
    | nil =>
        cases background with
        | none => rfl
        | some background => exact background.expected_reader

@[simp] theorem finish_reader (uri : Text) (draft : Draft) : draft.reader.finish uri = draft.finish uri := by
  rcases draft with ⟨language, last, comments, pending, _ | feature⟩
  · rfl
  · simp [Reader.finish, finish, reader, Feature.Draft.finish, Function.comp_def, ← List.map_reverse]

@[simp] theorem endFaults_reader (draft : Draft) : draft.reader.endFaults = draft.endFaults := by
  have last : draft.reader.lastLine = draft.lastLine := by
    cases present : draft.feature <;> simp [reader, present]
  simp [Reader.endFaults, endFaults, last]

/-- The draft as a refused line leaves it. -/
def withoutTags (draft : Draft) : Draft :=
  { draft with pending := none }

theorem withoutTags_of_unclaimed {draft : Draft} (unclaimed : draft.pending = none) :
    draft.withoutTags = draft := by
  rw [withoutTags, ← unclaimed]

@[simp] theorem takeTags_reader (draft : Draft) :
    draft.reader.takeTags = (draft.pending.tags, draft.withoutTags.reader) := by
  cases present : draft.feature <;> simp [Reader.takeTags, reader, withoutTags, present]

theorem phase_reader {draft : Draft} {feature : Feature.Draft} (present : draft.feature = some feature) :
    draft.reader.phase = feature.phase := by
  rw [reader, present]

theorem phase_reader_of_absent {draft : Draft} (absent : draft.feature = none) :
    draft.reader.phase = .beforeFeature := by
  simp [reader, absent, Reader.start]

/-! ## Lines -/

/-- Lines that open nothing. -/
theorem forward_reader (draft : Draft) (line : Line) :
    draft.reader.forward dialect line =
      Prod.map reader id ((draft.addToFeature dialect line).settle draft line) := by
  rcases draft with ⟨language, last, comments, pending, _ | ⟨heading, tags, description, background, scenarios⟩⟩
  · cases white : line.isBlank <;>
      simp [Reader.forward, reader, Reader.start, addToFeature, white, expected]
  · cases scenarios with
    | cons scenario earlier =>
        cases read : scenario.add dialect line <;>
          simp [Reader.forward, reader, Feature.Draft.phase, addToFeature, Feature.Draft.add,
            scenario.read_reader, read]
    | nil =>
        cases background with
        | some background =>
            cases read : background.add dialect line <;>
              simp [Reader.forward, reader, Feature.Draft.phase, addToFeature, Feature.Draft.add,
                background.read_reader, read]
        | none =>
            by_cases refused : ((dialect.role line).isStep || dialect.isArgument line) = true <;>
              simp [Reader.forward, reader, Feature.Draft.phase, addToFeature, Feature.Draft.add,
                refused]

theorem openFeature_reader (draft : Draft) (role : dialect.role line = .feature) :
    draft.reader.openFeature dialect line =
      Prod.map reader id ((draft.openConstruct dialect line).settle draft.withoutTags line) := by
  rw [Reader.openFeature, takeTags_reader]
  cases present : draft.feature with
  | none =>
      simp [openConstruct, role, present, withFeature, reader, withoutTags, Feature.Draft.onLine,
        Feature.Draft.phase, Reader.start]
  | some feature =>
      simp [phase_reader present, feature.phase_ne_beforeFeature, openConstruct, role, present]

theorem openBackground_reader (draft : Draft) (role : dialect.role line = .background)
    (unclaimed : draft.pending = none) :
    draft.reader.openBackground dialect line =
      Prod.map reader id ((draft.openConstruct dialect line).settle draft.withoutTags line) := by
  rw [withoutTags_of_unclaimed unclaimed, Reader.openBackground]
  cases present : draft.feature with
  | none => simp [phase_reader_of_absent present, openConstruct, role, present]
  | some feature =>
      have expected : draft.expected = feature.expected := by simp [Draft.expected, present]
      cases inHeader : feature.inHeader with
      | false =>
          have past : feature.phase ≠ .header := by simp [feature.phase_eq_header_iff, inHeader]
          simp [phase_reader present, past, openConstruct, role, present, Feature.Draft.addBackground,
            inHeader, expected]
      | true =>
          rw [phase_reader present, if_pos (feature.phase_eq_header_iff.mpr inHeader)]
          simp only [Feature.Draft.inHeader_iff] at inHeader
          simp [openConstruct, role, present, Feature.Draft.addBackground, Feature.Draft.inHeader, inHeader,
            withFeature, reader, Feature.Draft.phase, unclaimed]

theorem openScenario_reader (draft : Draft)
    (role : dialect.role line = .scenario ∨ dialect.role line = .scenarioOutline) :
    draft.reader.openScenario dialect line =
      Prod.map reader id ((draft.openConstruct dialect line).settle draft.withoutTags line) := by
  rw [Reader.openScenario, takeTags_reader]
  cases present : draft.feature with
  | none =>
      rcases role with role | role <;>
        simp [phase_reader_of_absent present, openConstruct, role, present]
  | some feature =>
      rw [phase_reader present, if_neg feature.phase_ne_beforeFeature]
      rcases role with role | role <;>
        simp [openConstruct, role, present, Feature.Draft.addScenario, withFeature, reader, withoutTags,
          Feature.Draft.phase]

theorem openExamples_reader (draft : Draft) (role : dialect.role line = .examples) :
    draft.reader.openExamples dialect line =
      Prod.map reader id ((draft.openConstruct dialect line).settle draft.withoutTags line) := by
  have expected : draft.withoutTags.reader.expected = draft.expected := expected_reader _
  rw [Reader.openExamples, takeTags_reader, expected]
  rcases draft with ⟨language, last, comments, pending, _ | ⟨heading, tags, description, background, scenarios⟩⟩
  · simp [phase_reader_of_absent, openConstruct, role]
  · cases scenarios with
    | nil =>
        have past : (Feature.Draft.mk heading tags description background []).phase ≠ .scenarios := by
          cases background <;> simp [Feature.Draft.phase]
        simp [phase_reader, past, openConstruct, role, Feature.Draft.addExamples, Draft.expected]
    | cons scenario earlier =>
        cases read : scenario.addExamples dialect pending.tags line <;>
          simp [openConstruct, role, Feature.Draft.addExamples, scenario.openExamples_reader, read,
            withFeature, reader, withoutTags, Feature.Draft.phase]

/-- Lines by their role, where pending tags admit them. -/
theorem dispatch_reader (draft : Draft)
    (admitted : draft.pending = none ∨ (dialect.role line).takesTags = true) :
    draft.reader.dispatch dialect line =
      Prod.map reader id
        ((if (dialect.role line).takesColon then draft.openConstruct dialect line
          else draft.addToFeature dialect line).settle draft.withoutTags line) := by
  rw [Reader.dispatch]
  cases role : dialect.role line with
  | feature => exact draft.openFeature_reader role
  | scenario => exact draft.openScenario_reader (.inl role)
  | scenarioOutline => exact draft.openScenario_reader (.inr role)
  | examples => exact draft.openExamples_reader role
  | background =>
      exact draft.openBackground_reader role (admitted.resolve_right (by simp [role, Role.takesTags]))
  | step | tableRow | comment | tag | plain =>
      rw [withoutTags_of_unclaimed (admitted.resolve_right (by simp [role, Role.takesTags]))]
      exact draft.forward_reader line

/-- The rules refuse no line of an open doc-string, since the readers note no mismatch there. -/
theorem settle_addToFeature_of_inDocString {draft : Draft} (inside : draft.inDocString = true)
    (previous : Draft) :
    (draft.addToFeature dialect line).settle previous line =
      (draft.addToFeature dialect line).settle draft line := by
  cases read : draft.addToFeature dialect line with
  | ok result => rfl
  | error expected =>
      have within : Fault.Within (draft.reader.forward dialect line).2 :=
        Reader.within_forward (draft.inDocString_reader.trans inside)
      rw [forward_reader, read] at within
      cases within _ List.mem_cons_self

/-- Lines that are no directive. -/
theorem place_reader (draft : Draft) (line : Line) :
    draft.reader.place dialect line =
      Prod.map reader id ((draft.place dialect line).settle draft.withoutTags line) := by
  simp only [Reader.place, place, inDocString_reader, pending_reader, takeTags_reader]
  split_ifs with inside comment tag idle refused colon
  · rw [settle_addToFeature_of_inDocString inside, forward_reader]
  · cases present : draft.feature <;> simp [reader, present, Reader.start]
  · cases present : draft.feature <;> simp [reader, present, Reader.start]
  · rfl
  · simp
  all_goals
    have admitted : draft.pending = none ∨ (dialect.role line).takesTags = true := by
      cases pending : draft.pending with
      | none => exact .inl rfl
      | some tags => exact .inr (by simpa [pending] using refused)
  · rw [dispatch_reader draft admitted, if_pos colon]
  · rw [dispatch_reader draft admitted, if_neg colon]

theorem chooseLanguage_reader (settings : Settings) (draft : Draft) (code : Text) :
    draft.reader.chooseLanguage settings code = Prod.map reader id (draft.chooseLanguage settings code) := by
  cases known : settings.languages.get? code <;> cases present : draft.feature <;>
    simp [Reader.chooseLanguage, chooseLanguage, known, reader, present, Reader.start]

theorem read_reader (settings : Settings) (draft : Draft) (line : Line) :
    draft.reader.read settings line = Prod.map reader id (draft.add settings line) := by
  have numbered : { draft.reader with lastLine := line.number } =
      ({ draft with lastLine := line.number } : Draft).reader := by
    cases present : draft.feature <;> simp [reader, present]
  simp only [Reader.read, add, numbered]
  cases directive? line with
  | some code => exact chooseLanguage_reader settings _ code
  | none =>
      simp only [language_reader]
      exact place_reader _ line

/-- Readers that have read the same as a draft go on like the draft. -/
theorem readAll_reader (settings : Settings) (draft : Draft) (lines : List Line) :
    draft.reader.readAll settings lines = Prod.map reader id (draft.addAll settings lines) := by
  induction lines generalizing draft with
  | nil => rfl
  | cons line rest inductionHypothesis =>
      simp [Reader.readAll, addAll, read_reader, inductionHypothesis]

end Document.Draft

/-! ## Documents as they are read -/

namespace Document.Reader

/-- How far the readers are agrees with what they have read. -/
def Coherent (reader : Reader) : Prop :=
  ∃ draft : Draft, draft.reader = reader

theorem readAll_empty (settings : Settings) (lines : List Line) :
    (empty settings).readAll settings lines =
      Prod.map Draft.reader id ((Draft.empty settings).addAll settings lines) :=
  Draft.readAll_reader settings (.empty settings) lines

theorem coherent_empty (settings : Settings) : (empty settings).Coherent :=
  ⟨.empty settings, rfl⟩

theorem Coherent.read {reader : Reader} (coherent : reader.Coherent) (settings : Settings) (line : Line) :
    (reader.read settings line).1.Coherent := by
  rcases coherent with ⟨draft, rfl⟩
  rw [draft.read_reader]
  exact ⟨_, rfl⟩

/-- Whatever lines are read, the readers stay coherent. -/
theorem Coherent.readAll {reader : Reader} (coherent : reader.Coherent) (settings : Settings)
    (lines : List Line) : (reader.readAll settings lines).1.Coherent := by
  induction lines generalizing reader with
  | nil => exact coherent
  | cons line rest inductionHypothesis => exact inductionHypothesis (coherent.read settings line)

end Document.Reader

/-- A document is read as the rules say. -/
theorem readDocument_eq (settings : Settings) (uri : Text) (lines : List Line) :
    readDocument settings uri lines =
      (((Document.Draft.empty settings).addAll settings lines).1.finish uri,
        ((Report.empty uri).add ((Document.Draft.empty settings).addAll settings lines).2).add
          ((Document.Draft.empty settings).addAll settings lines).1.endFaults) := by
  simp [readDocument, Document.Reader.readAll_empty]

end Gherkin
