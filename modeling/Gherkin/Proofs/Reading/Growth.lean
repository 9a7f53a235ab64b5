import Gherkin.Proofs.Reading.Bearing

namespace Gherkin

/-!
# How a document grows

Every layer of the reader adds to what it has and takes nothing back: the marks of
a line come behind all marks that were there before, in document order as in the
order of reading.  Rows go to the last step or examples block, also behind a line
that was refused, so none has to be put in the middle.  Inside a doc-string a line
leaves no mark.

Pending tags count as if their construct stood behind everything else.  They are
the only marks that can be lost again.
-/

/-- The line adds marks of its own behind those that there are, and none if it is `inside` a
doc-string. -/
def Line.Appends (line : Line) (inside : Bool) (before after : List Mark) : Prop :=
  ∃ added, after = before ++ added ∧ line.Bears added ∧ (inside = true → added = [])

namespace Line

variable {line : Line} {inside : Bool} {before after : List Mark}

theorem appends_self (line : Line) (inside : Bool) (marks : List Mark) : line.Appends inside marks marks :=
  ⟨[], (List.append_nil marks).symm, line.bears_nil, fun _ => rfl⟩

theorem Bears.appends {added : List Mark} (bears : line.Bears added) (marks : List Mark) :
    line.Appends false marks (marks ++ added) :=
  ⟨added, rfl, bears, nofun⟩

theorem Appends.append_left (appends : line.Appends inside before after) (front : List Mark) :
    line.Appends inside (front ++ before) (front ++ after) := by
  rcases appends with ⟨added, rfl, bears, quiet⟩
  exact ⟨added, (List.append_assoc front before added).symm, bears, quiet⟩

theorem Appends.eq_of_inside (appends : line.Appends true before after) : after = before := by
  rcases appends with ⟨added, rfl, -, quiet⟩
  rw [quiet rfl, List.append_nil]

end Line

/-! ## Arguments and steps -/

namespace Table.Draft

variable {dialect : Dialect} {line : Line}

/-- The marks of the table so far, of which there are none before its header. -/
def marks (table : Option Draft) : List Mark :=
  (table.map fun draft => draft.finish.marks).getD []

theorem appends_add (table : Option Draft) (role : dialect.role line = .tableRow) :
    line.Appends false (marks table) (add table line).1.finish.marks := by
  cases table with
  | none =>
      have bears := (Line.bears_row role).frame (Line.on_bar role) rfl
      simpa [marks, add, finish, Table.marks] using bears.appends []
  | some draft =>
      rcases draft with ⟨header, headerLocation, rows⟩
      cases rows with
      | nil =>
          have bears := (Line.bears_row role).frame (Line.on_row role) rfl
          simpa [marks, add, finish, Table.marks] using
            bears.appends (Table.Draft.mk header headerLocation []).finish.marks
      | cons last earlier =>
          have same : (add (some ⟨header, headerLocation, last :: earlier⟩) line).1.finish.marks =
              (Table.Draft.mk header headerLocation (last :: earlier)).finish.marks ++
                (Row.onLine line).marks := by
            simp [add, finish, Table.marks, List.head?_append]
          rw [same]
          exact (Line.bears_row role).appends _

end Table.Draft

namespace Step.Draft

variable {dialect : Dialect} {line : Line}

theorem bears_of_onLine? {start : Draft} (starts : onLine? dialect line = some start) :
    line.Bears start.finish.marks := by
  have role := exists_role_of_onLine? starts
  rw [onLine?_of_role role, Option.some.injEq] at starts
  rw [← starts]
  exact Line.bears_step role

theorem appends_row {step : Draft} (free : step.docString = none) (role : dialect.role line = .tableRow) :
    line.Appends false step.finish.marks
      ({ step with table := some (Table.Draft.add step.table line).1 } : Draft).finish.marks := by
  have rows := (Table.Draft.appends_add step.table role).append_left
    [⟨.step step.keyword step.text, step.location⟩]
  cases begun : step.table <;>
    simpa [finish, argument, Step.marks, Argument.marks, Table.Draft.marks, begun, free] using rows

theorem appends_opening {step : Draft} (free : step.docString = none) {opening : DocString.Opening}
    (opens : DocString.Opening.onLine? dialect.separators line = some opening) :
    line.Appends false step.finish.marks
      ({ step with docString := some ⟨opening, [], true⟩ } : Draft).finish.marks := by
  cases begun : step.table with
  | none =>
      have bears := Line.bears_opening opens
      simpa [finish, argument, Step.marks, Argument.marks, DocString.mark, DocString.Draft.finish, begun,
        free] using bears.appends [⟨.step step.keyword step.text, step.location⟩]
  | some table =>
      -- The table that was begun first stays the argument of the step.
      simpa [finish, argument, Step.marks, begun] using line.appends_self false step.finish.marks

theorem marks_finish_of_content {step : Draft} {docString : DocString.Draft}
    (unfinished : step.docString = some docString) (line : Line) :
    ({ step with docString := some (docString.add line) } : Draft).finish.marks = step.finish.marks := by
  cases begun : step.table <;>
    simp [finish, argument, Step.marks, Argument.marks, DocString.mark, DocString.Draft.finish, begun,
      unfinished]

end Step.Draft

namespace Step.Sequence

/-- The marks of the steps read so far. -/
def marks (steps : Sequence) : List Mark :=
  steps.finish.flatMap Step.marks

@[simp] theorem marks_nil : marks [] = [] :=
  rfl

@[simp] theorem marks_cons (step : Draft) (earlier : Sequence) :
    marks (step :: earlier) = marks earlier ++ step.finish.marks := by
  simp [marks, finish]

end Step.Sequence

/-! ## Constructs -/

namespace Background.Draft

@[simp] theorem marks_finish_onLine (dialect : Dialect) (line : Line) :
    (onLine dialect line).finish.marks = [(Heading.onLine dialect.language line).mark] :=
  rfl

end Background.Draft

namespace Body.Draft

variable {dialect : Dialect} {line : Line} {body next : Body.Draft} {faults : List Fault}

theorem Takes.appends (taken : Takes dialect line body next faults) :
    line.Appends body.inDocString body.steps.marks next.steps.marks := by
  cases taken with
  | @content step earlier docString steps unfinished isOpen =>
      rw [steps, Step.Sequence.marks_cons, Step.Sequence.marks_cons,
        Step.Draft.marks_finish_of_content unfinished]
      exact line.appends_self _ _
  | step outside starts =>
      rw [outside, Step.Sequence.marks_cons]
      exact (Step.Draft.bears_of_onLine? starts).appends _
  | row steps free role unmarked =>
      rw [inDocString_of_steps steps, Step.Draft.inDocString_of_free free, steps,
        Step.Sequence.marks_cons, Step.Sequence.marks_cons]
      exact (Step.Draft.appends_row free role).append_left _
  | opening steps free silent admitted opens =>
      rw [inDocString_of_steps steps, Step.Draft.inDocString_of_free free, steps,
        Step.Sequence.marks_cons, Step.Sequence.marks_cons]
      exact (Step.Draft.appends_opening free opens).append_left _
  | blank => exact line.appends_self _ _
  | description => exact line.appends_self _ _

end Body.Draft

namespace Examples.Draft

variable {dialect : Dialect} {line : Line} {block next : Examples.Draft} {faults : List Fault}

@[simp] theorem marks_finish_onLine (dialect : Dialect) (tags : List Tag) (line : Line) :
    (onLine dialect tags line).finish.marks =
      tags.map Tag.mark ++ [(Heading.onLine dialect.language line).mark] :=
  rfl

theorem marks_finish (block : Examples.Draft) :
    block.finish.marks = block.tags.map Tag.mark ++ block.heading.mark :: Table.Draft.marks block.table := by
  simp only [finish, Examples.marks, Table.Draft.marks, Option.map_map, Function.comp_def]

theorem appends_of_add (taken : block.add dialect line = .ok (next, faults)) :
    line.Appends false block.finish.marks next.finish.marks := by
  simp only [add] at taken
  split_ifs at taken with role begun white steps
  · cases taken
    have rows := (Table.Draft.appends_add block.table role).append_left
      (block.tags.map Tag.mark ++ [block.heading.mark])
    simpa [marks_finish, Table.Draft.marks] using rows
  · cases taken
    exact line.appends_self _ _
  · cases taken
    exact line.appends_self _ _

end Examples.Draft

namespace Scenario.Draft

@[simp] theorem marks_finish_onLine (dialect : Dialect) (tags : List Tag) (line : Line) :
    (onLine dialect tags line).finish.marks =
      tags.map Tag.mark ++ [(Heading.onLine dialect.language line).mark] := by
  simp [onLine, finish, Scenario.marks, Body.Draft.empty, Step.Sequence.finish]

theorem marks_finish (scenario : Scenario.Draft) :
    scenario.finish.marks = scenario.tags.map Tag.mark ++ scenario.heading.mark ::
      scenario.body.steps.marks ++ scenario.examples.reverse.flatMap fun block => block.finish.marks := by
  simp only [finish, Scenario.marks, Step.Sequence.marks, List.flatMap_map]

theorem marks_finish_of_examples {scenario : Scenario.Draft} {block : Examples.Draft}
    {blocks : List Examples.Draft} (examples : scenario.examples = block :: blocks) :
    scenario.finish.marks =
      ({ scenario with examples := blocks } : Scenario.Draft).finish.marks ++ block.finish.marks := by
  simp [marks_finish, examples]

theorem appends_body {dialect : Dialect} {line : Line} {scenario : Scenario.Draft} {body : Body.Draft}
    {faults : List Fault} (inBody : scenario.inDocString = true ∨ scenario.examples = [])
    (taken : Body.Draft.Takes dialect line scenario.body body faults) :
    line.Appends scenario.inDocString scenario.finish.marks
      ({ scenario with body := body } : Scenario.Draft).finish.marks := by
  have steps := taken.appends
  rcases inBody with inside | none
  · have inside : scenario.body.inDocString = true := inside
    rw [inside] at steps
    rw [marks_finish, marks_finish, steps.eq_of_inside]
    exact line.appends_self _ _
  · have further := steps.append_left (scenario.tags.map Tag.mark ++ [scenario.heading.mark])
    simpa [marks_finish, none, inDocString] using further

theorem appends_examples {dialect : Dialect} {line : Line} {scenario : Scenario.Draft}
    {block next : Examples.Draft} {blocks : List Examples.Draft} {faults : List Fault}
    (examples : scenario.examples = block :: blocks) (taken : block.add dialect line = .ok (next, faults)) :
    line.Appends false scenario.finish.marks
      ({ scenario with examples := next :: blocks } : Scenario.Draft).finish.marks := by
  have after : ({ scenario with examples := next :: blocks } : Scenario.Draft).finish.marks = _ :=
    marks_finish_of_examples rfl
  rw [marks_finish_of_examples examples, after]
  exact (Examples.Draft.appends_of_add taken).append_left _

end Scenario.Draft

namespace Feature.Draft

variable {dialect : Dialect} {line : Line} {feature next : Feature.Draft} {faults : List Fault}

/-- The marks of the feature read so far.  The code of its language leaves none. -/
def marks (feature : Feature.Draft) : List Mark :=
  (feature.finish []).marks

theorem marks_finish (code : Text) (feature : Feature.Draft) : (feature.finish code).marks = feature.marks :=
  rfl

theorem marks_eq (feature : Feature.Draft) :
    feature.marks = feature.tags.map Tag.mark ++ feature.heading.mark ::
      (feature.background.map fun background => background.finish.marks).getD [] ++
        feature.scenarios.reverse.flatMap fun scenario => scenario.finish.marks := by
  simp only [marks, finish, Feature.marks, List.flatMap_map, Option.map_map, Function.comp_def]

@[simp] theorem marks_onLine (dialect : Dialect) (tags : List Tag) (line : Line) :
    (onLine dialect tags line).marks =
      tags.map Tag.mark ++ [(Heading.onLine dialect.language line).mark] := by
  simp [onLine, marks_eq]

theorem marks_background (inHeader : feature.inHeader = true) (background : Background.Draft) :
    ({ feature with background := some background } : Feature.Draft).marks =
      feature.marks ++ background.finish.marks := by
  rw [inHeader_iff] at inHeader
  simp [marks_eq, inHeader]

theorem marks_of_scenarios {scenario : Scenario.Draft} {earlier : List Scenario.Draft}
    (scenarios : feature.scenarios = scenario :: earlier) :
    feature.marks =
      ({ feature with scenarios := earlier } : Feature.Draft).marks ++ scenario.finish.marks := by
  simp [marks_eq, scenarios]

theorem Takes.appends (taken : Takes dialect line feature next faults) :
    line.Appends feature.inDocString feature.marks next.marks := by
  cases taken with
  | @scenario scenario earlier body _ scenarios inBody taken =>
      have after : ({ feature with
          scenarios := { scenario with body := body } :: earlier } : Feature.Draft).marks = _ :=
        marks_of_scenarios rfl
      rw [inDocString_of_scenarios scenarios, marks_of_scenarios scenarios, after]
      exact (Scenario.Draft.appends_body inBody taken).append_left _
  | @examples scenario earlier block later blocks _ scenarios outside examples taken =>
      have after : ({ feature with
          scenarios := { scenario with examples := later :: blocks } :: earlier } :
            Feature.Draft).marks = _ := marks_of_scenarios rfl
      rw [inDocString_of_scenarios scenarios, outside, marks_of_scenarios scenarios, after]
      exact (Scenario.Draft.appends_examples examples taken).append_left _
  | @background background body _ scenarios present taken =>
      have steps := taken.appends.append_left
        (feature.tags.map Tag.mark ++ feature.heading.mark :: [background.heading.mark])
      rw [inDocString_of_background scenarios present]
      simpa [marks_eq, scenarios, present, Background.Draft.finish, Background.marks,
        Background.Draft.inDocString, Step.Sequence.marks] using steps
  | description => exact line.appends_self _ _

end Feature.Draft

/-! ## Documents -/

namespace Document.Draft

variable {settings : Settings} {dialect : Dialect} {line : Line} {draft next : Draft} {faults : List Fault}

/-- The marks of the tree read so far, and behind them those of the pending tags. -/
def marks (draft : Draft) : List Mark :=
  (draft.feature.map Feature.Draft.marks).getD [] ++ draft.pending.tags.map Tag.mark

theorem marks_of_feature {feature : Feature.Draft} (present : draft.feature = some feature) :
    draft.marks = feature.marks ++ draft.pending.tags.map Tag.mark := by
  rw [marks, present, Option.map_some, Option.getD_some]

@[simp] theorem marks_withFeature (feature : Feature.Draft) :
    (draft.withFeature feature).marks = feature.marks :=
  List.append_nil _

/-- What a line can do to the marks and comments of a document: it adds marks, or it adds a
comment.  Only marks at the end can be lost by it. -/
inductive Grows (line : Line) (draft next : Draft) : Prop
  | marks {kept added : List Mark} (before : kept <+: draft.marks) (after : next.marks = kept ++ added)
      (bears : line.Bears added) (comments : next.comments = draft.comments)
  | comment (marks : next.marks = draft.marks) (comments : next.comments = .onLine line :: draft.comments)

theorem grows_of_appends {inside : Bool} (appends : line.Appends inside draft.marks next.marks)
    (comments : next.comments = draft.comments) : Grows line draft next := by
  rcases appends with ⟨added, after, bears, -⟩
  exact .marks List.prefix_rfl after bears comments

/-- A line that opens a construct adds its heading behind the tags that it claims. -/
theorem grows_of_heading {feature : Feature.Draft} (colon : (dialect.role line).takesColon = true)
    (opened : feature.marks = draft.marks ++ [(Heading.onLine dialect.language line).mark]) :
    Grows line draft (draft.withFeature feature) :=
  .marks List.prefix_rfl ((marks_withFeature feature).trans opened) (Line.bears_heading colon) rfl

theorem Takes.grows (taken : Takes dialect line draft next faults) : Grows line draft next := by
  cases taken with
  | comment => exact .comment rfl rfl
  | tag outside role =>
      have appends := line.bears_tags.appends draft.marks
      exact grows_of_appends (by simpa [marks, PendingTags.tags] using appends) rfl
  | blank => exact grows_of_appends (line.appends_self false _) rfl
  | feature outside role absent =>
      apply grows_of_heading (by rw [role]; rfl)
      rw [Feature.Draft.marks_onLine, marks, absent, Option.map_none, Option.getD_none, List.nil_append]
  | background outside role present unclaimed inHeader =>
      apply grows_of_heading (by rw [role]; rfl)
      simp [Feature.Draft.marks_background inHeader, marks_of_feature present, unclaimed, PendingTags.tags]
  | @scenario feature outside role present =>
      have opened : ({ feature with
          scenarios := .onLine dialect draft.pending.tags line :: feature.scenarios } :
            Feature.Draft).marks = _ := Feature.Draft.marks_of_scenarios rfl
      apply grows_of_heading (by rcases role with role | role <;> rw [role] <;> rfl)
      rw [opened, marks_of_feature present, List.append_assoc, Scenario.Draft.marks_finish_onLine]
  | @examples feature scenario earlier outside role present scenarios isOutline =>
      have inScenario : ({ scenario with
          examples := .onLine dialect draft.pending.tags line :: scenario.examples } :
            Scenario.Draft).finish.marks = _ := Scenario.Draft.marks_finish_of_examples rfl
      apply grows_of_heading (by rw [role]; rfl)
      rw [Feature.Draft.marks_of_scenarios rfl, inScenario, marks_of_feature present,
        Feature.Draft.marks_of_scenarios scenarios, Examples.Draft.marks_finish_onLine]
      simp only [List.append_assoc]
  | @inner feature later _ present routed taken =>
      have appends := taken.appends
      have after : ({ draft with feature := some later } : Draft).marks = _ := marks_of_feature rfl
      rcases routed with inside | ⟨unclaimed, -⟩
      · rw [inDocString_of_feature present] at inside
        rw [inside] at appends
        have same : ({ draft with feature := some later } : Draft).marks = draft.marks := by
          rw [after, marks_of_feature present, appends.eq_of_inside]
        exact .marks List.prefix_rfl (same.trans (List.append_nil _).symm) line.bears_nil rfl
      · have further : line.Appends feature.inDocString draft.marks
            ({ draft with feature := some later } : Draft).marks := by
          rw [after, marks_of_feature present]
          simpa [unclaimed, PendingTags.tags] using appends
        exact grows_of_appends further rfl

theorem Grows.withLastLine {last : Nat} (grows : Grows line { draft with lastLine := last } next) :
    Grows line draft next := by
  cases grows with
  | marks before after bears comments => exact .marks before after bears comments
  | comment marks comments => exact .comment marks comments

/-- Whatever a line is, it grows the document or leaves it, up to pending tags that are given up. -/
theorem Adds.grows (adds : Adds settings line draft next faults) : Grows line draft next := by
  cases adds with
  | chosen => exact grows_of_appends (line.appends_self false _) rfl
  | unknown => exact grows_of_appends (line.appends_self false _) rfl
  | taken undirected taken => exact taken.grows.withLastLine
  | refused => exact .marks (List.prefix_append _ _) (by simp [marks, PendingTags.tags]) line.bears_nil rfl

end Document.Draft
end Gherkin
