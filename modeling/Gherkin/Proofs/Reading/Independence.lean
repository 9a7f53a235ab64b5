import Gherkin.Parse
import Gherkin.Proofs.Classification
import Mathlib.Tactic.SplitIfs

namespace Gherkin

/-!
# Scenarios do not depend on what stands before them

A line that opens a scenario leaves everything before it behind: the lines that
follow go to this scenario and to later ones.  What was read before decides only
where in the document they stand.  So the same lines give the same scenarios, the
same comments and the same faults in whatever place of a feature they are read, as
long as no doc-string is open and no tags are pending there.

Two readers to which different lines have led are compared through a third one, which
has read only what came since.  Putting it behind either of the two is a change that no
later line notices.
-/

/-- The document with further comments and scenarios behind those that it has. -/
def Document.extend (comments : List Comment) (scenarios : List Scenario) (document : Document) :
    Document :=
  { document with
    comments := document.comments ++ comments
    feature := document.feature.map fun feature =>
      { feature with scenarios := feature.scenarios ++ scenarios } }

/-- The lines begin with a scenario and the tags in front of it. -/
inductive Line.StartScenario (dialect : Dialect) : List Line → Prop
  | opening {line : Line} {rest : List Line}
      (role : dialect.role line = .scenario ∨ dialect.role line = .scenarioOutline) :
      StartScenario dialect (line :: rest)
  | tag {line : Line} {rest : List Line} (role : dialect.role line = .tag)
      (later : StartScenario dialect rest) : StartScenario dialect (line :: rest)

namespace Document.Reader

variable {settings : Settings} {dialect : Dialect} {line : Line} {lines : List Line} {earlier later : Reader}

/-- A feature was opened, no doc-string is open and no tags are pending. -/
structure Idle (reader : Reader) : Prop where
  opened : reader.phase ≠ .beforeFeature
  present : reader.header.isSome = true
  outside : reader.inDocString = false
  unclaimed : reader.pending = none

/-- The lines that are read next give the document further comments and scenarios and leave the
rest of it as it is, and the faults are those that are noted for them, the end of the input
included. -/
structure Gains (settings : Settings) (uri : Text) (lines : List Line) (comments : List Comment)
    (scenarios : List Scenario) (faults : List Fault) (reader : Reader) : Prop where
  document : (reader.readAll settings lines).1.finish uri =
    (reader.finish uri).extend comments scenarios
  faults : (reader.readAll settings lines).2 ++ (reader.readAll settings lines).1.endFaults = faults

/-! ## What was read before the scenarios -/

/-- The reader that has read what `earlier` has, and behind it what `later` has. -/
def followedBy (earlier later : Reader) : Reader :=
  { later with
    comments := later.comments ++ earlier.comments
    header := earlier.header
    description := earlier.description
    background := earlier.background
    scenarios := later.scenarios ++ earlier.scenarios }

/-- A scenario was opened. -/
structure Begun (reader : Reader) : Prop where
  phase : reader.phase = .scenarios
  present : reader.header.isSome = true
  scenarios : reader.scenarios ≠ []

/-- The second reader has gone on like the first one, with what `earlier` has read in front of it. -/
structure Alongside (earlier : Reader) (alone behind : Reader × List Fault) : Prop where
  begun : alone.1.Begun
  same : behind = (earlier.followedBy alone.1, alone.2)

theorem Begun.phase_followedBy (begun : later.Begun) : (earlier.followedBy later).phase = .scenarios :=
  begun.phase

/-- Both readers have the same last scenario. -/
theorem Begun.exists_scenario (earlier : Reader) (begun : later.Begun) :
    ∃ scenario others, later.scenarios = scenario :: others ∧
      (earlier.followedBy later).scenarios = scenario :: (others ++ earlier.scenarios) := by
  rcases List.exists_cons_of_ne_nil begun.scenarios with ⟨scenario, others, scenarios⟩
  exact ⟨scenario, others, scenarios, congrArg (· ++ earlier.scenarios) scenarios⟩

theorem Begun.expected_followedBy (begun : later.Begun) :
    (earlier.followedBy later).expected = later.expected := by
  rcases begun.exists_scenario earlier with ⟨scenario, others, scenarios, behind⟩
  simp [expected, begun.phase_followedBy, begun.phase, scenarios, behind]

theorem Begun.inDocString_followedBy (begun : later.Begun) :
    (earlier.followedBy later).inDocString = later.inDocString := by
  rcases begun.exists_scenario earlier with ⟨scenario, others, scenarios, behind⟩
  simp [inDocString, begun.phase_followedBy, begun.phase, scenarios, behind]

theorem Begun.expectedAfterTags_followedBy (begun : later.Begun) (present : earlier.header.isSome = true) :
    (earlier.followedBy later).expectedAfterTags = later.expectedAfterTags := by
  simp [expectedAfterTags, followedBy, begun.present, present]

theorem Begun.takeTags (begun : later.Begun) : later.takeTags.2.Begun :=
  ⟨begun.phase, begun.present, begun.scenarios⟩

theorem Begun.alongside_openFeature (begun : later.Begun) :
    Alongside earlier (later.openFeature dialect line)
      ((earlier.followedBy later).openFeature dialect line) := by
  simp only [openFeature, begun.phase, begun.phase_followedBy, reduceCtorEq, if_false,
    begun.expected_followedBy]
  exact ⟨begun.takeTags, rfl⟩

theorem Begun.alongside_openBackground (begun : later.Begun) :
    Alongside earlier (later.openBackground dialect line)
      ((earlier.followedBy later).openBackground dialect line) := by
  simp only [openBackground, begun.phase, begun.phase_followedBy, reduceCtorEq, if_false,
    begun.expected_followedBy]
  exact ⟨begun, rfl⟩

theorem Begun.alongside_openScenario (begun : later.Begun) :
    Alongside earlier (later.openScenario dialect line)
      ((earlier.followedBy later).openScenario dialect line) := by
  simp only [openScenario, begun.phase, begun.phase_followedBy, reduceCtorEq, if_false]
  exact ⟨⟨rfl, begun.present, List.cons_ne_nil _ _⟩, rfl⟩

theorem Begun.alongside_openExamples (begun : later.Begun) :
    Alongside earlier (later.openExamples dialect line)
      ((earlier.followedBy later).openExamples dialect line) := by
  rcases begun.exists_scenario earlier with ⟨scenario, others, scenarios, behind⟩
  simp only [openExamples, begun.phase, begun.phase_followedBy, if_true, scenarios, behind]
  exact ⟨⟨begun.phase, begun.present, List.cons_ne_nil _ _⟩, rfl⟩

theorem Begun.alongside_forward (begun : later.Begun) :
    Alongside earlier (later.forward dialect line)
      ((earlier.followedBy later).forward dialect line) := by
  rcases begun.exists_scenario earlier with ⟨scenario, others, scenarios, behind⟩
  simp only [forward, begun.phase, begun.phase_followedBy, scenarios, behind]
  exact ⟨⟨rfl, begun.present, List.cons_ne_nil _ _⟩, rfl⟩

/-- If a scenario was opened, lines go to it or to one behind it. -/
theorem Begun.alongside_dispatch (begun : later.Begun) :
    Alongside earlier (later.dispatch dialect line) ((earlier.followedBy later).dispatch dialect line) := by
  rw [dispatch, dispatch]
  cases dialect.role line with
  | feature => exact begun.alongside_openFeature
  | background => exact begun.alongside_openBackground
  | scenario | scenarioOutline => exact begun.alongside_openScenario
  | examples => exact begun.alongside_openExamples
  | step | tableRow | comment | tag | plain => exact begun.alongside_forward

theorem Begun.alongside_place (begun : later.Begun) (present : earlier.header.isSome = true) :
    Alongside earlier (later.place dialect line) ((earlier.followedBy later).place dialect line) := by
  have pending : (earlier.followedBy later).pending = later.pending := rfl
  simp only [place, begun.inDocString_followedBy, begun.expectedAfterTags_followedBy present, pending]
  split_ifs with inside comment tag idle refused
  · exact begun.alongside_forward
  · exact ⟨⟨begun.phase, begun.present, begun.scenarios⟩, rfl⟩
  · exact ⟨⟨begun.phase, begun.present, begun.scenarios⟩, rfl⟩
  · exact ⟨begun, rfl⟩
  · exact ⟨begun.takeTags, rfl⟩
  · exact begun.alongside_dispatch

theorem Begun.alongside_read (begun : later.Begun) (present : earlier.header.isSome = true) :
    Alongside earlier (later.read settings line) ((earlier.followedBy later).read settings line) := by
  have numbered : ({ later with lastLine := line.number } : Reader).Begun :=
    ⟨begun.phase, begun.present, begun.scenarios⟩
  simp only [read]
  cases directive? line with
  | none => exact numbered.alongside_place present
  | some code =>
      simp only [chooseLanguage]
      cases settings.languages.get? code with
      | none => exact ⟨numbered, rfl⟩
      | some language => exact ⟨⟨begun.phase, begun.present, begun.scenarios⟩, rfl⟩

/-- What was read before the scenarios plays no part for any later lines. -/
theorem Begun.alongside_readAll (begun : later.Begun) (present : earlier.header.isSome = true)
    (settings : Settings) (lines : List Line) :
    Alongside earlier (later.readAll settings lines)
      ((earlier.followedBy later).readAll settings lines) := by
  induction lines generalizing later with
  | nil => exact ⟨begun, rfl⟩
  | cons line rest inductionHypothesis =>
      have step : Alongside earlier (later.read settings line) _ := begun.alongside_read present
      simp only [readAll]
      have further := inductionHypothesis step.begun
      rw [step.same, further.same]
      exact ⟨further.begun, rfl⟩

/-- Whatever lines are read, there still is the scenario. -/
theorem Begun.readAll (begun : later.Begun) (settings : Settings) (lines : List Line) :
    (later.readAll settings lines).1.Begun := by
  have alongside : Alongside later _ _ := begun.alongside_readAll begun.present settings lines
  exact alongside.begun

/-! ## The active language -/

theorem language_openFeature (reader : Reader) :
    (reader.openFeature dialect line).1.language = reader.language := by
  simp only [openFeature]
  split_ifs <;> rfl

theorem language_openBackground (reader : Reader) :
    (reader.openBackground dialect line).1.language = reader.language := by
  rw [openBackground]
  split_ifs <;> rfl

theorem language_openScenario (reader : Reader) :
    (reader.openScenario dialect line).1.language = reader.language := by
  simp only [openScenario]
  split_ifs <;> rfl

theorem language_openExamples (reader : Reader) :
    (reader.openExamples dialect line).1.language = reader.language := by
  simp only [openExamples]
  split_ifs
  · cases reader.scenarios <;> rfl
  · rfl

theorem language_forward (reader : Reader) :
    (reader.forward dialect line).1.language = reader.language := by
  rw [forward]
  cases reader.phase with
  | beforeFeature | header =>
      simp only
      split_ifs <;> rfl
  | background => cases reader.background <;> rfl
  | scenarios => cases reader.scenarios <;> rfl

theorem language_dispatch (reader : Reader) :
    (reader.dispatch dialect line).1.language = reader.language := by
  rw [dispatch]
  cases dialect.role line with
  | feature => exact reader.language_openFeature
  | background => exact reader.language_openBackground
  | scenario | scenarioOutline => exact reader.language_openScenario
  | examples => exact reader.language_openExamples
  | step | tableRow | comment | tag | plain => exact reader.language_forward

theorem language_place (reader : Reader) :
    (reader.place dialect line).1.language = reader.language := by
  simp only [place]
  split_ifs with inside comment tag idle refused
  · exact reader.language_forward
  · rfl
  · rfl
  · rfl
  · rfl
  · exact reader.language_dispatch

/-- Only a directive changes the active language. -/
theorem language_read (settings : Settings) (reader : Reader) (undirected : directive? line = none) :
    (reader.read settings line).1.language = reader.language := by
  simp only [read, undirected]
  exact language_place _

theorem language_readAll (settings : Settings) (reader : Reader)
    (undirected : ∀ line ∈ lines, directive? line = none) :
    (reader.readAll settings lines).1.language = reader.language := by
  induction lines generalizing reader with
  | nil => rfl
  | cons line rest inductionHypothesis =>
      have later := inductionHypothesis (reader.read settings line).1
        fun other listed => undirected other (List.mem_cons_of_mem _ listed)
      exact later.trans (reader.language_read settings (undirected line List.mem_cons_self))

/-! ## The lines of scenarios -/

variable {reader : Reader}

/-- The reader behind the line that opens a scenario, if nothing but this scenario was read. -/
def ofScenario (dialect : Dialect) (tags : List Tag) (line : Line) : Reader :=
  { start dialect.language with
    phase := .scenarios
    lastLine := line.number
    header := some ⟨.onLine dialect.language line, []⟩
    scenarios := [.onLine dialect tags line] }

theorem begun_ofScenario (dialect : Dialect) (tags : List Tag) (line : Line) :
    (ofScenario dialect tags line).Begun :=
  ⟨rfl, rfl, List.cons_ne_nil _ _⟩

theorem place_of_scenario (outside : reader.inDocString = false)
    (role : dialect.role line = .scenario ∨ dialect.role line = .scenarioOutline) :
    reader.place dialect line = reader.openScenario dialect line := by
  have solid : line.isBlank = false :=
    Dialect.isBlank_of_role (by rcases role with role | role <;> rw [role] <;> decide)
  rcases role with role | role <;>
    simp [place, dispatch, outside, role, solid, Role.takesTags]

/-- A line that opens a scenario leaves everything before it behind. -/
theorem read_of_scenario (opened : reader.phase ≠ .beforeFeature) (outside : reader.inDocString = false)
    (undirected : directive? line = none)
    (role : (settings.dialect reader.language).role line = .scenario ∨
      (settings.dialect reader.language).role line = .scenarioOutline) :
    reader.read settings line =
      (reader.followedBy (ofScenario (settings.dialect reader.language) reader.pending.tags line), []) := by
  have shut : ({ reader with lastLine := line.number } : Reader).inDocString = false := outside
  simp only [read, undirected, place_of_scenario shut role, openScenario, if_neg opened]
  rfl

theorem read_of_tag (outside : reader.inDocString = false) (undirected : directive? line = none)
    (role : (settings.dialect reader.language).role line = .tag) :
    reader.read settings line =
      ({ reader with
          lastLine := line.number
          pending := some (reader.pending.tags ++ Tag.onLine line) }, Tag.faultsOnLine line) := by
  have shut : ({ reader with lastLine := line.number } : Reader).inDocString = false := outside
  simp [read, undirected, place, shut, role, PendingTags.add]

/-- The scenarios that were read so far. -/
def finishedScenarios (reader : Reader) : List Scenario :=
  reader.scenarios.reverse.map Scenario.Reader.finish

theorem Begun.finishedScenarios_ne_nil (begun : later.Begun) : later.finishedScenarios ≠ [] := by
  simpa [finishedScenarios] using begun.scenarios

theorem finish_followedBy (uri : Text) (language : later.language = earlier.language) :
    (earlier.followedBy later).finish uri =
      (earlier.finish uri).extend later.comments.reverse later.finishedScenarios := by
  cases header : earlier.header <;>
    simp [finish, Document.extend, followedBy, finishedScenarios, header, language]

theorem Begun.endFaults_followedBy (begun : later.Begun) (present : earlier.header.isSome = true) :
    (earlier.followedBy later).endFaults = later.endFaults := by
  rw [endFaults, begun.inDocString_followedBy, begun.expectedAfterTags_followedBy present]
  rfl

/-- What a reader gains by the lines of scenarios is what they give where nothing else was read. -/
theorem gains_of_scenario (uri : Text) (opened : reader.phase ≠ .beforeFeature)
    (present : reader.header.isSome = true) (outside : reader.inDocString = false)
    (undirected : directive? line = none)
    (role : (settings.dialect reader.language).role line = .scenario ∨
      (settings.dialect reader.language).role line = .scenarioOutline)
    (undirectedLater : ∀ line ∈ lines, directive? line = none) {since : Reader × List Fault}
    (read : (ofScenario (settings.dialect reader.language) reader.pending.tags line).readAll settings
      lines = since) :
    reader.Gains settings uri (line :: lines) since.1.comments.reverse since.1.finishedScenarios
      (since.2 ++ since.1.endFaults) := by
  have begun := begun_ofScenario (settings.dialect reader.language) reader.pending.tags line
  have language := language_readAll settings
    (ofScenario (settings.dialect reader.language) reader.pending.tags line) undirectedLater
  have alongside : Alongside reader _ _ := begun.alongside_readAll present settings lines
  rw [read] at language alongside
  have whole : reader.readAll settings (line :: lines) = (reader.followedBy since.1, since.2) := by
    simp only [readAll, read_of_scenario opened outside undirected role, alongside.same, List.nil_append]
  constructor
  · rw [whole]
    exact finish_followedBy uri language
  · rw [whole, alongside.begun.endFaults_followedBy present]

/-- Tags in front of a scenario are noted and claimed wherever it stands. -/
theorem Gains.of_tag {uri : Text} {comments : List Comment} {scenarios : List Scenario}
    {faults : List Fault} (outside : reader.inDocString = false) (undirected : directive? line = none)
    (role : (settings.dialect reader.language).role line = .tag)
    (gains : ({ reader with
        lastLine := line.number
        pending := some (reader.pending.tags ++ Tag.onLine line) } : Reader).Gains settings uri lines
      comments scenarios faults) :
    reader.Gains settings uri (line :: lines) comments scenarios (Tag.faultsOnLine line ++ faults) := by
  have taken := read_of_tag outside undirected role
  constructor
  · simp only [readAll, taken]
    exact gains.document
  · simp only [readAll, taken, List.append_assoc, gains.faults]

/-- The lines of scenarios give the same behind every reader in which the same tags are pending. -/
theorem exists_gains {language : Language} {pending : PendingTags} (uri : Text)
    (starts : Line.StartScenario (settings.dialect language) lines)
    (undirected : ∀ line ∈ lines, directive? line = none) :
    ∃ comments scenarios faults, scenarios ≠ [] ∧ ∀ reader : Reader, reader.language = language →
      reader.phase ≠ .beforeFeature → reader.header.isSome = true → reader.inDocString = false →
        reader.pending = pending → reader.Gains settings uri lines comments scenarios faults := by
  induction starts generalizing pending with
  | @opening line rest role =>
      have undirectedLater : ∀ other ∈ rest, directive? other = none :=
        fun other listed => undirected other (List.mem_cons_of_mem _ listed)
      generalize read : (ofScenario (settings.dialect language) pending.tags line).readAll settings rest = since
      have begun : since.1.Begun := by
        rw [← read]
        exact (begun_ofScenario (settings.dialect language) pending.tags line).readAll settings rest
      refine ⟨since.1.comments.reverse, since.1.finishedScenarios, since.2 ++ since.1.endFaults,
        begun.finishedScenarios_ne_nil, ?_⟩
      intro reader same opened present outside waiting
      subst same waiting
      exact gains_of_scenario uri opened present outside (undirected line List.mem_cons_self) role
        undirectedLater read
  | @tag line rest role later inductionHypothesis =>
      rcases @inductionHypothesis (some (pending.tags ++ Tag.onLine line))
          (fun other listed => undirected other (List.mem_cons_of_mem _ listed)) with
        ⟨comments, scenarios, faults, begun, gains⟩
      refine ⟨comments, scenarios, Tag.faultsOnLine line ++ faults, begun, ?_⟩
      intro reader same opened present outside waiting
      subst same waiting
      refine .of_tag outside (undirected line List.mem_cons_self) role ?_
      exact gains _ rfl opened present outside rfl

end Document.Reader

open Document.Reader in
/-- Lines that begin with a scenario give the same scenarios, comments and faults behind any two
readers that have the same active language, in which a feature was opened, no doc-string is open
and no tags are pending.  Comments and scenarios come behind those that were read before, and
nothing else of either document changes. -/
theorem scenarios_independent {settings : Settings} {first second : Document.Reader} {lines : List Line}
    (uri : Text) (idle : first.Idle) (idleSecond : second.Idle) (language : second.language = first.language)
    (starts : Line.StartScenario (settings.dialect first.language) lines)
    (later : ∀ line ∈ lines, line.number ≠ 1) :
    ∃ comments scenarios faults, scenarios ≠ [] ∧
      first.Gains settings uri lines comments scenarios faults ∧
      second.Gains settings uri lines comments scenarios faults := by
  have undirected : ∀ line ∈ lines, Document.directive? line = none :=
    fun line listed => if_neg (later line listed)
  rcases exists_gains uri starts undirected with ⟨comments, scenarios, faults, present, gains⟩
  refine ⟨comments, scenarios, faults, present, ?_, ?_⟩
  · exact gains first rfl idle.opened idle.present idle.outside idle.unclaimed
  · exact gains second language idleSecond.opened idleSecond.present idleSecond.outside
      idleSecond.unclaimed

/-- A tagged scenario behind a background, and behind the examples of an outline. -/
theorem tagged_scenario_independent : ∃ comments scenarios faults, scenarios ≠ [] ∧
    (((Document.Reader.empty .standard).readAll .standard (Line.numberFrom 1 (["Feature: f", "Background:",
      "Given x"].map String.toList))).1.Gains .standard [] (Line.numberFrom 9 (["@t", "Scenario: s",
        "When y", "# c", "| a |", "| b | c |", "@u"].map String.toList)) comments scenarios faults) ∧
    (((Document.Reader.empty .standard).readAll .standard (Line.numberFrom 1 (["@a", "Feature: f",
      "Scenario Outline: o", "Given x", "Examples:", "| a |"].map String.toList))).1.Gains .standard []
        (Line.numberFrom 9 (["@t", "Scenario: s", "When y", "# c", "| a |", "| b | c |",
          "@u"].map String.toList)) comments scenarios faults) := by
  refine scenarios_independent [] ⟨?_, ?_, ?_, ?_⟩ ⟨?_, ?_, ?_, ?_⟩ ?_ (.tag ?_ (.opening (.inl ?_))) ?_
  all_goals decide +kernel

end Gherkin
