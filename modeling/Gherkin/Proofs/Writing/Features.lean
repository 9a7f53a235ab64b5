import Gherkin.Proofs.Writing.Bodies

namespace Gherkin

open Text (SingleLine)

/-!
# Written features are read back

The blocks of a feature are read back one after the other.  Between two of them
stands a blank line, which belongs to the block before it and changes nothing that
is kept of it.  What is read of a feature is followed in its finished and erased
form, to which each block adds itself.
-/

/-! ## What is read back -/

/-- The background that is read where the given one was written. -/
def Background.reread (language : Language) (background : Background) : Background :=
  { background with steps := background.steps.map (Step.reread language) }

/-- The scenario that is read where the given one was written. -/
def Scenario.reread (language : Language) (scenario : Scenario) : Scenario :=
  { scenario with steps := scenario.steps.map (Step.reread language) }

/-- The feature that is read where the given one was written. -/
def Feature.reread (language : Language) (feature : Feature) : Feature :=
  { feature with
    background := feature.background.map (Background.reread language)
    scenarios := feature.scenarios.map (Scenario.reread language) }

/-- The scenario with a further examples block. -/
def Scenario.withExamples (scenario : Scenario) (block : Examples) : Scenario :=
  { scenario with examples := scenario.examples ++ [block] }

/-- The feature with a further scenario. -/
def Feature.withScenario (feature : Feature) (scenario : Scenario) : Feature :=
  { feature with scenarios := feature.scenarios ++ [scenario] }

theorem Feature.eq_of_withScenario_eq {feature other : Feature} {scenario last : Scenario}
    (same : feature.withScenario scenario = other.withScenario last) :
    feature = other ∧ scenario = last := by
  cases feature
  cases other
  simp only [withScenario, Feature.mk.injEq, List.append_singleton_inj] at same
  simp only [Feature.mk.injEq]
  rcases same with ⟨heading, language, description, tags, background, scenarios, last⟩
  exact ⟨⟨heading, language, description, tags, background, scenarios⟩, last⟩

theorem Feature.Draft.erased_finish_of_scenarios {own : Feature.Draft} {current : Scenario.Draft}
    {earlier : List Scenario.Draft} (scenarios : own.scenarios = current :: earlier) (code : Text) :
    (own.finish code).erased =
      ({ own with scenarios := earlier }.finish code).erased.withScenario current.finish.erased := by
  simp [finish, scenarios, Feature.erased, Feature.withScenario]

namespace Document.Draft

variable {dialect : Dialect}

/-- A line that is taken up without a fault. -/
def Continues (dialect : Dialect) (line : Line) (draft next : Document.Draft) : Prop :=
  Takes dialect line draft next []

/-- A document of which nothing but a feature was read. -/
def holding (language : Language) (feature : Feature.Draft) : Document.Draft :=
  { start language with feature := some feature }

theorem role_spelled (regular : dialect.language.Regular) (tag : Tag) (rest : List Tag)
    (indent number : Nat) :
    dialect.role ⟨List.replicate indent ' ' ++ Tag.spelled (tag :: rest), number⟩ = .tag := by
  have solid : Text.isSpace '@' = false := by decide
  apply regular.tag_of_at
  rw [Tag.spelled_cons]
  exact Text.head?_trim (Text.isBlank_margin indent) solid

/-- Written tags are pending when they are read back. -/
theorem yields_tags (draft : Document.Draft) (regular : dialect.language.Regular) (outside : draft.inDocString = false)
    (unclaimed : draft.pending = none) {tags : List Tag} (proper : ∀ tag ∈ tags, tag.Proper)
    (indent : Nat) :
    Yields (Continues dialect) (fun reached => ∃ pending : PendingTags,
        pending.tags.map Tag.erased = tags.map Tag.erased ∧ reached = { draft with pending := pending })
      (Tag.layout indent tags) draft := by
  cases tags with
  | nil =>
      refine ⟨none, rfl, ?_⟩
      rw [← unclaimed]
  | cons tag rest =>
      have written : Tag.layout indent (tag :: rest) =
          [List.replicate indent ' ' ++ Tag.spelled (tag :: rest)] := rfl
      rw [written]
      refine Yields.single (Text.singleLine_append.mpr
        ⟨Text.singleLine_margin indent, Tag.singleLine_spelled proper⟩) fun number => ?_
      have role := role_spelled regular tag rest indent number
      rcases Tag.onLine_spelled proper (List.cons_ne_nil _ _) indent number with ⟨read, faultless⟩
      have taken := @Takes.tag dialect _ draft outside role
      rw [faultless] at taken
      rw [unclaimed] at taken
      exact ⟨_, taken, some _, read, rfl⟩

end Document.Draft

/-! ## Headings -/

namespace Heading.FromLine

variable {dialect : Dialect} {role : Role} {heading : Heading}

theorem role_layout (origin : heading.FromLine dialect role) (regular : dialect.language.Regular)
    (colon : role.takesColon = true) (indent number : Nat) :
    dialect.role ⟨heading.layout indent, number⟩ = role := by
  rcases origin with ⟨line, -, rfl, rfl⟩
  exact congrArg Classification.role (Heading.classify_layout regular colon indent number)

theorem erased_onLine (origin : heading.FromLine dialect role) (regular : dialect.language.Regular)
    (colon : role.takesColon = true) (indent number : Nat) :
    (Heading.onLine dialect.language ⟨heading.layout indent, number⟩).erased = heading.erased := by
  rcases origin with ⟨line, -, rfl, rfl⟩
  exact Heading.erased_onLine_layout regular colon indent number

theorem singleLine (origin : heading.FromLine dialect role) (colon : role.takesColon = true)
    (indent : Nat) : SingleLine (heading.layout indent) := by
  rcases origin with ⟨line, single, rfl, rfl⟩
  exact Heading.singleLine_layout colon single indent

end Heading.FromLine

/-! ## Examples blocks -/

namespace Examples.Draft

variable {dialect : Dialect} {block : Examples.Draft}

/-- A line that goes to the examples block and is taken up there without a fault. -/
def Continues (dialect : Dialect) (line : Line) (block next : Examples.Draft) : Prop :=
  dialect.Routed line ∧ block.add dialect line = .ok (next, [])

theorem accepts_rows (heading : Heading) (tags : List Tag) (description : Description.Draft) :
    Table.Draft.Accepts dialect (Continues dialect)
      fun table => ⟨heading, tags, description, table⟩ := by
  intro line table role unmarked faultless
  refine ⟨Body.Draft.routed_of_tableRow role, ?_⟩
  rw [Examples.Draft.add]
  simp only [role, if_true]
  rw [faultless]

/-- The written description and table of an examples block are read back below its heading. -/
theorem Legible.yields (legible : block.Legible dialect) (regular : dialect.language.Regular)
    (standard : dialect.separators = .standard) (heading : Heading) (tags : List Tag) :
    Yields (Continues dialect) (fun reached => reached.heading = heading ∧ reached.tags = tags ∧
        reached.finish.description = block.finish.description ∧
        reached.finish.table.map Table.erased = block.finish.table.map Table.erased)
      (Description.layout block.finish.description ++
        (block.finish.table.map (Table.layout Layout.argumentIndent)).getD [])
      ⟨heading, tags, [], none⟩ := by
  have plain := legible.description
  have descriptions : Yields (Continues dialect)
      (fun reached => ∃ again : Description.Draft, again.finish = block.description.finish ∧
        reached = ⟨heading, tags, again, none⟩)
      (Description.layout block.description.finish) ⟨heading, tags, [], none⟩ := by
    refine Description.yields_layout (fun again => (⟨heading, tags, again, none⟩ : Examples.Draft))
      (fun text listed => (plain text listed).single) (fun text listed => (plain text listed).solid) ?_
    intro text listed number current
    have role : dialect.role ⟨text, number⟩ = .plain := (plain text listed).role
    refine ⟨Dialect.routed_of_plain role, ?_⟩
    simp [Examples.Draft.add, role, Role.isStep]
  apply descriptions.append
  intro reached found
  rcases found with ⟨again, same, rfl⟩
  cases tabled : block.table with
  | none =>
      have written : block.finish.table = none := by simp [Examples.Draft.finish, tabled]
      rw [written]
      exact ⟨rfl, rfl, same, rfl⟩
  | some table =>
      have written : block.finish.table = some table.finish := by simp [Examples.Draft.finish, tabled]
      rw [written]
      refine ((legible.table table tabled).yields regular standard
        (accepts_rows heading tags again)).mono ?_
      intro final reached
      rcases reached with ⟨table, content, rfl⟩
      refine ⟨rfl, rfl, same, ?_⟩
      simp [Examples.Draft.finish, content]

end Examples.Draft

/-! ## Blocks of a feature -/

/-- What is kept of a feature that is being read, whether its last scenario can have examples,
and that no doc-string is open. -/
structure Feature.Draft.Holds (own : Feature.Draft) (code : Text) (feature : Feature)
    (inOutline : Bool) : Prop where
  content : (own.finish code).erased = feature
  outline : own.inOutline = inOutline
  outside : own.inDocString = false

namespace Feature.Draft.Holds

variable {own : Feature.Draft} {code : Text} {feature : Feature} {inOutline : Bool}

/-- Where examples can follow, the last scenario is an outline that is not in a doc-string. -/
theorem exists_outline {base : Feature} {scenario : Scenario}
    (holds : own.Holds code (base.withScenario scenario) true) :
    ∃ current earlier, own.scenarios = current :: earlier ∧ current.isOutline = true ∧
      current.inDocString = false ∧ current.finish.erased = scenario ∧
      ({ own with scenarios := earlier }.finish code).erased = base := by
  have outline := holds.outline
  cases scenarios : own.scenarios with
  | nil => simp [inOutline, scenarios] at outline
  | cons current earlier =>
      have content := holds.content
      rw [erased_finish_of_scenarios scenarios] at content
      rcases Feature.eq_of_withScenario_eq content with ⟨base, last⟩
      exact ⟨current, earlier, rfl, by simpa [inOutline, scenarios] using outline,
        (inDocString_of_scenarios scenarios).symm.trans holds.outside, last, base⟩

/-- A feature that holds no background and no scenarios is in its header. -/
theorem inHeader (holds : own.Holds code feature inOutline) (bare : feature.background = none)
    (empty : feature.scenarios = []) : own.background = none ∧ own.scenarios = [] := by
  have background := congrArg Feature.background holds.content
  have scenarios := congrArg Feature.scenarios holds.content
  rw [bare] at background
  rw [empty] at scenarios
  exact ⟨by simpa [Feature.erased, finish] using background,
    by simpa [Feature.erased, finish] using scenarios⟩

end Feature.Draft.Holds

theorem Examples.Draft.layout_finish (block : Examples.Draft) :
    block.finish.layout = Tag.layout Layout.stepIndent block.tags ++
      ([block.heading.layout Layout.stepIndent] ++ (Description.layout block.finish.description ++
        (block.finish.table.map (Table.layout Layout.argumentIndent)).getD [])) := by
  simp [Examples.layout, finish]

theorem Examples.Draft.erased_finish_congr {block other : Examples.Draft}
    (heading : block.heading.erased = other.heading.erased)
    (tags : block.tags.map Tag.erased = other.tags.map Tag.erased)
    (description : block.finish.description = other.finish.description)
    (table : block.finish.table.map Table.erased = other.finish.table.map Table.erased) :
    block.finish.erased = other.finish.erased := by
  have title : block.finish.toHeading.erased = other.finish.toHeading.erased := heading
  have marks : block.finish.tags.map Tag.erased = other.finish.tags.map Tag.erased := tags
  simp only [Examples.erased, title, marks, description, table]

namespace Scenario.Draft

theorem layout_finish (current : Scenario.Draft) :
    current.finish.layout = Tag.layout Layout.blockIndent current.tags ++
      ([current.heading.layout Layout.blockIndent] ++
        ((Description.layout current.body.description.finish ++
          current.body.steps.finish.flatMap Step.layout) ++
            current.examples.reverse.flatMap fun block => [[]] ++ block.finish.layout)) := by
  simp only [Scenario.layout, finish, List.flatMap_map, List.append_assoc]

theorem erased_finish_examples (current : Scenario.Draft) (block : Examples.Draft) :
    ({ current with examples := block :: current.examples } : Scenario.Draft).finish.erased =
      current.finish.erased.withExamples block.finish.erased := by
  simp [Scenario.erased, finish, Scenario.withExamples]

theorem role_eq_or (current : Scenario.Draft) :
    current.role = .scenario ∨ current.role = .scenarioOutline := by
  unfold role
  split_ifs
  · exact .inr rfl
  · exact .inl rfl

theorem takesColon_role (current : Scenario.Draft) : current.role.takesColon = true := by
  rcases current.role_eq_or with role | role <;> rw [role] <;> rfl

theorem decide_role (current : Scenario.Draft) :
    decide (current.role = .scenarioOutline) = current.isOutline := by
  unfold role
  cases current.isOutline <;> rfl

end Scenario.Draft

theorem Background.Draft.layout_finish (current : Background.Draft) :
    current.finish.layout = [current.heading.layout Layout.blockIndent] ++
      (Description.layout current.body.description.finish ++
        current.body.steps.finish.flatMap Step.layout) := by
  simp only [Background.layout, finish, List.append_assoc]

namespace Document.Draft

variable {dialect : Dialect} {own : Feature.Draft} {feature : Feature} {inOutline : Bool}

/-- Nothing but the given feature was read. -/
def Reached (language : Language) (feature : Feature) (inOutline : Bool) (reached : Document.Draft) : Prop :=
  ∃ own : Feature.Draft, own.Holds language.code feature inOutline ∧ reached = holding language own

theorem inDocString_holding (language : Language) (own : Feature.Draft) :
    (holding language own).inDocString = own.inDocString :=
  rfl

theorem yields_blank (language : Language) (holds : own.Holds language.code feature inOutline) :
    Yields (Continues dialect) (Reached language feature inOutline) [[]] (holding language own) := by
  refine Yields.single Text.singleLine_nil fun number => ?_
  have white : (⟨[], number⟩ : Line).isBlank = true := rfl
  have role := Dialect.role_of_isBlank dialect white
  rcases Feature.Draft.exists_takes_blank dialect white holds.outside with
    ⟨next, taken, outline, outside, same⟩
  refine ⟨holding language next, ?_, next, ?_, rfl⟩
  · exact .inner rfl (.inr ⟨rfl, Dialect.routed_of_plain role⟩) taken
  · exact ⟨(congrArg Feature.erased (same _)).trans holds.content, outline.trans holds.outline, outside⟩

/-- The feature that is read on in an examples block of its last scenario. -/
def inBlock (own : Feature.Draft) (current : Scenario.Draft) (earlier : List Scenario.Draft)
    (block : Examples.Draft) : Feature.Draft :=
  { own with scenarios := { current with examples := block :: current.examples } :: earlier }

theorem continues_inBlock (own : Feature.Draft) {current : Scenario.Draft} (earlier : List Scenario.Draft)
    (outside : current.inDocString = false) {line : Line} {block next : Examples.Draft}
    (taken : block.Continues dialect line next) :
    Continues dialect line (holding dialect.language (inBlock own current earlier block))
      (holding dialect.language (inBlock own current earlier next)) :=
  .inner rfl (.inr ⟨rfl, taken.1⟩)
    (@Feature.Draft.Takes.examples dialect line (inBlock own current earlier block)
      { current with examples := block :: current.examples } earlier block next current.examples []
      rfl outside rfl taken.2)

/-- The written examples block is read back behind an outline. -/
theorem yields_examples {block : Examples.Draft} (legible : block.Legible dialect)
    (regular : dialect.language.Regular) (standard : dialect.separators = .standard)
    {base : Feature} {scenario : Scenario}
    (holds : own.Holds dialect.language.code (base.withScenario scenario) true) :
    Yields (Continues dialect)
      (Reached dialect.language (base.withScenario (scenario.withExamples block.finish.erased)) true)
      ([[]] ++ block.finish.layout) (holding dialect.language own) := by
  refine (yields_blank dialect.language holds).append ?_
  rintro _ ⟨own, holds, rfl⟩
  rw [block.layout_finish]
  refine (yields_tags (holding dialect.language own) regular holds.outside rfl legible.tags
    Layout.stepIndent).append ?_
  rintro _ ⟨pending, tags, rfl⟩
  refine ⟨legible.heading.singleLine rfl _, fun number => ?_⟩
  have role := legible.heading.role_layout regular rfl Layout.stepIndent number
  have heading := legible.heading.erased_onLine regular rfl Layout.stepIndent number
  generalize (⟨block.heading.layout Layout.stepIndent, number⟩ : Line) = line at role heading
  rcases holds.exists_outline with ⟨current, earlier, scenarios, isOutline, outside, rfl, rfl⟩
  refine ⟨_, .examples holds.outside role rfl scenarios isOutline, ?_⟩
  have lifted := (legible.yields regular standard (.onLine dialect.language line) pending.tags).lift
    (fun block => holding dialect.language (inBlock own current earlier block))
    fun line block next taken => continues_inBlock own earlier outside taken
  apply lifted.mono
  rintro _ ⟨again, ⟨sameHeading, sameTags, description, table⟩, rfl⟩
  have same : again.finish.erased = block.finish.erased := by
    rw [← sameHeading] at heading
    rw [← sameTags] at tags
    exact Examples.Draft.erased_finish_congr heading tags description table
  refine ⟨inBlock own current earlier again, ⟨?_, isOutline, outside⟩, rfl⟩
  rw [← same, ← current.erased_finish_examples again]
  exact Feature.Draft.erased_finish_of_scenarios rfl dialect.language.code

/-- Written examples blocks are read back one after the other. -/
theorem yields_blocks {blocks : List Examples.Draft} (legible : ∀ block ∈ blocks, block.Legible dialect)
    (regular : dialect.language.Regular) (standard : dialect.separators = .standard)
    {base : Feature} {scenario : Scenario}
    (holds : own.Holds dialect.language.code (base.withScenario scenario) true) :
    Yields (Continues dialect)
      (Reached dialect.language (base.withScenario { scenario with
        examples := scenario.examples ++ blocks.map fun block => block.finish.erased }) true)
      (blocks.flatMap fun block => [[]] ++ block.finish.layout) (holding dialect.language own) := by
  induction blocks generalizing own scenario with
  | nil =>
      refine ⟨own, ?_, rfl⟩
      rw [List.map_nil, List.append_nil]
      exact holds
  | cons block rest inductionHypothesis =>
      rw [List.flatMap_cons]
      refine (yields_examples (legible block List.mem_cons_self) regular standard holds).append ?_
      rintro _ ⟨next, later, rfl⟩
      refine (inductionHypothesis (fun other listed => legible other (List.mem_cons_of_mem _ listed))
        later).mono ?_
      intro reached found
      simpa [Scenario.withExamples] using found

/-! ## Scenarios and backgrounds -/

/-- The feature that is read on in the body of a further scenario. -/
def inBody (own : Feature.Draft) (current : Scenario.Draft) (body : Body.Draft) : Feature.Draft :=
  { own with scenarios := { current with body := body } :: own.scenarios }

theorem continues_inBody (own : Feature.Draft) {current : Scenario.Draft}
    (bare : current.examples = []) {line : Line} {body next : Body.Draft}
    (taken : body.Continues dialect line next) :
    Continues dialect line (holding dialect.language (inBody own current body))
      (holding dialect.language (inBody own current next)) :=
  .inner rfl (taken.1.imp_right fun routed => ⟨rfl, routed⟩)
    (@Feature.Draft.Takes.scenario dialect line (inBody own current body)
      { current with body := body } own.scenarios next [] rfl (.inr bare) taken.2)

/-- A line that opens a scenario is followed by its written description and steps, which are
read back without its examples blocks. -/
private theorem yields_body (fresh : Scenario.Draft) {current : Scenario.Draft}
    (legible : current.Legible dialect)
    (regular : dialect.language.Regular) (standard : dialect.separators = .standard)
    (content : (own.finish dialect.language.code).erased = feature)
    (heading : fresh.heading.erased = current.heading.erased)
    (tags : fresh.tags.map Tag.erased = current.tags.map Tag.erased)
    (isOutline : fresh.isOutline = current.isOutline) (empty : fresh.body = .empty)
    (bare : fresh.examples = []) :
    Yields (Continues dialect)
      (Reached dialect.language (feature.withScenario
        { (current.finish.reread dialect.language).erased with examples := [] }) current.isOutline)
      (Description.layout current.body.description.finish ++
        current.body.steps.finish.flatMap Step.layout)
      (holding dialect.language { own with scenarios := fresh :: own.scenarios }) := by
  have lifted := (legible.body.yields regular standard).lift
    (fun body => holding dialect.language (inBody own fresh body))
    fun line body next taken => continues_inBody own bare taken
  rw [inBody, ← empty] at lifted
  apply lifted.mono
  rintro _ ⟨body, ⟨description, closed, steps⟩, rfl⟩
  refine ⟨inBody own fresh body, ⟨?_, isOutline, closed⟩, rfl⟩
  have scenario : ({ fresh with body := body } : Scenario.Draft).finish.erased =
      { (current.finish.reread dialect.language).erased with examples := [] } := by
    simp [Scenario.erased, Scenario.Draft.finish, Scenario.reread, heading, tags, description, steps,
      bare]
  rw [← scenario, ← content]
  exact Feature.Draft.erased_finish_of_scenarios rfl dialect.language.code

/-- Behind the steps of a scenario its written examples blocks are read back. -/
private theorem yields_all_blocks {current : Scenario.Draft} (legible : current.Legible dialect)
    (regular : dialect.language.Regular) (standard : dialect.separators = .standard)
    (holds : own.Holds dialect.language.code (feature.withScenario
      { (current.finish.reread dialect.language).erased with examples := [] }) current.isOutline) :
    Yields (Continues dialect)
      (Reached dialect.language
        (feature.withScenario (current.finish.reread dialect.language).erased) current.isOutline)
      (current.examples.reverse.flatMap fun block => [[]] ++ block.finish.layout)
      (holding dialect.language own) := by
  have final : (current.finish.reread dialect.language).erased.examples =
      current.examples.reverse.map fun block => block.finish.erased := by
    simp [Scenario.reread, Scenario.erased, Scenario.Draft.finish]
  cases outline : current.isOutline with
  | false =>
      rw [legible.plain outline] at final ⊢
      have bare : (current.finish.reread dialect.language).erased.examples = [] := final
      rw [outline, ← bare] at holds
      exact ⟨own, holds, rfl⟩
  | true =>
      rw [outline] at holds
      refine (yields_blocks (fun block listed => legible.examples block (List.mem_reverse.mp listed))
        regular standard holds).mono ?_
      intro reached found
      rw [List.nil_append, ← final] at found
      exact found

/-- The written scenario is read back with its examples blocks. -/
theorem yields_scenario {current : Scenario.Draft} (legible : current.Legible dialect)
    (regular : dialect.language.Regular) (standard : dialect.separators = .standard)
    (holds : own.Holds dialect.language.code feature inOutline) :
    Yields (Continues dialect)
      (Reached dialect.language
        (feature.withScenario (current.finish.reread dialect.language).erased) current.isOutline)
      ([[]] ++ current.finish.layout) (holding dialect.language own) := by
  refine (yields_blank dialect.language holds).append ?_
  rintro _ ⟨own, holds, rfl⟩
  rw [current.layout_finish]
  refine (yields_tags (holding dialect.language own) regular holds.outside rfl legible.tags
    Layout.blockIndent).append ?_
  rintro _ ⟨pending, tags, rfl⟩
  have colon := current.takesColon_role
  refine ⟨legible.heading.singleLine colon _, fun number => ?_⟩
  have role := legible.heading.role_layout regular colon Layout.blockIndent number
  have heading := legible.heading.erased_onLine regular colon Layout.blockIndent number
  generalize (⟨current.heading.layout Layout.blockIndent, number⟩ : Line) = line at role heading
  have opens : dialect.role line = .scenario ∨ dialect.role line = .scenarioOutline := by
    rw [role]
    exact current.role_eq_or
  have outline : decide (dialect.role line = .scenarioOutline) = current.isOutline := by
    rw [role]
    exact current.decide_role
  refine ⟨_, .scenario holds.outside opens rfl, ?_⟩
  refine (yields_body (.onLine dialect pending.tags line) legible regular standard holds.content
    heading tags outline rfl rfl).append ?_
  rintro _ ⟨own, holds, rfl⟩
  exact yields_all_blocks legible regular standard holds

/-- Written scenarios are read back one after the other. -/
theorem yields_scenarios {scenarios : List Scenario.Draft}
    (legible : ∀ scenario ∈ scenarios, scenario.Legible dialect) (regular : dialect.language.Regular)
    (standard : dialect.separators = .standard)
    (holds : own.Holds dialect.language.code feature inOutline) :
    Yields (Continues dialect)
      (fun reached => ∃ inOutline, Reached dialect.language { feature with
        scenarios := feature.scenarios ++ scenarios.map fun scenario =>
          (scenario.finish.reread dialect.language).erased } inOutline reached)
      (scenarios.flatMap fun scenario => [[]] ++ scenario.finish.layout)
      (holding dialect.language own) := by
  induction scenarios generalizing own feature inOutline with
  | nil =>
      refine ⟨inOutline, own, ?_, rfl⟩
      rw [List.map_nil, List.append_nil]
      exact holds
  | cons scenario rest inductionHypothesis =>
      rw [List.flatMap_cons]
      refine (yields_scenario (legible scenario List.mem_cons_self) regular standard holds).append ?_
      rintro _ ⟨next, later, rfl⟩
      refine (inductionHypothesis (fun other listed => legible other (List.mem_cons_of_mem _ listed))
        later).mono ?_
      intro reached found
      simpa [Feature.withScenario] using found

/-- The feature that is read on in the body of its background. -/
def inBackground (own : Feature.Draft) (current : Background.Draft) (body : Body.Draft) : Feature.Draft :=
  { own with background := some { current with body := body } }

theorem inDocString_inBackground {own : Feature.Draft} (scenarios : own.scenarios = [])
    (current : Background.Draft) (body : Body.Draft) :
    (inBackground own current body).inDocString = body.inDocString :=
  @Feature.Draft.inDocString_of_background (inBackground own current body)
    { current with body := body } scenarios rfl

theorem continues_inBackground {own : Feature.Draft} (scenarios : own.scenarios = [])
    (current : Background.Draft) {line : Line} {body next : Body.Draft}
    (taken : body.Continues dialect line next) :
    Continues dialect line (holding dialect.language (inBackground own current body))
      (holding dialect.language (inBackground own current next)) := by
  refine .inner rfl ?_ (@Feature.Draft.Takes.background dialect line (inBackground own current body)
    { current with body := body } next [] scenarios rfl taken.2)
  rw [inDocString_holding, inDocString_inBackground scenarios]
  exact taken.1.imp_right fun routed => ⟨rfl, routed⟩

/-- The written background is read back in the header of a feature. -/
theorem yields_background {current : Background.Draft} (legible : current.Legible dialect)
    (regular : dialect.language.Regular) (standard : dialect.separators = .standard)
    (holds : own.Holds dialect.language.code feature inOutline) (bare : feature.background = none)
    (empty : feature.scenarios = []) :
    Yields (Continues dialect)
      (Reached dialect.language { feature with
        background := some (current.finish.reread dialect.language).erased } inOutline)
      ([[]] ++ current.finish.layout) (holding dialect.language own) := by
  refine (yields_blank dialect.language holds).append ?_
  rintro _ ⟨own, holds, rfl⟩
  rcases holds.inHeader bare empty with ⟨absent, scenarios⟩
  rw [current.layout_finish]
  refine ⟨legible.heading.singleLine rfl _, fun number => ?_⟩
  have role := legible.heading.role_layout regular rfl Layout.blockIndent number
  have heading := legible.heading.erased_onLine regular rfl Layout.blockIndent number
  generalize (⟨current.heading.layout Layout.blockIndent, number⟩ : Line) = line at role heading
  refine ⟨_, .background holds.outside role rfl rfl
    (Feature.Draft.inHeader_iff.mpr ⟨absent, scenarios⟩), ?_⟩
  have lifted := (legible.body.yields regular standard).lift
    (fun body => holding dialect.language (inBackground own (.onLine dialect line) body))
    fun line body next taken => continues_inBackground scenarios _ taken
  apply lifted.mono
  rintro _ ⟨body, ⟨description, closed, steps⟩, rfl⟩
  refine ⟨inBackground own (.onLine dialect line) body, ⟨?_, holds.outline, ?_⟩, rfl⟩
  · have background : ({ Background.Draft.onLine dialect line with body := body } :
        Background.Draft).finish.erased = (current.finish.reread dialect.language).erased := by
      have title : (Background.Draft.onLine dialect line).heading.erased = current.heading.erased :=
        heading
      simp [Background.erased, Background.Draft.finish, Background.reread, title, description, steps]
    rw [← background, ← holds.content]
    rfl
  · exact (inDocString_inBackground scenarios _ body).trans closed

end Document.Draft

/-! ## Features -/

/-- The lines of a feature behind the language directive. -/
def Feature.undirected (feature : Feature) : List Text :=
  Tag.layout 0 feature.tags ++ ([feature.toHeading.layout 0] ++ (Description.layout feature.description ++
    ((feature.background.map fun background => [[]] ++ background.layout).getD [] ++
      feature.scenarios.flatMap fun scenario => [[]] ++ scenario.layout)))

theorem Feature.layout_eq (feature : Feature) :
    feature.layout = Language.directiveLayout feature.language ++ feature.undirected := by
  simp only [layout, undirected, List.append_assoc]

namespace Feature.Draft

variable {dialect : Dialect} {own : Feature.Draft}

open Document.Draft (start holding Continues Reached)

/-- The feature whose description is read on. -/
def inDescription (heading : Heading) (tags : List Tag) (description : Description.Draft) :
    Feature.Draft :=
  ⟨heading, tags, description, none, []⟩

/-- The written description of a feature is read back below its heading. -/
theorem Legible.yields_description (legible : own.Legible dialect) (heading : Heading)
    (tags : List Tag) :
    Yields (Continues dialect) (fun reached => ∃ again : Description.Draft,
        again.finish = own.description.finish ∧
        reached = holding dialect.language (inDescription heading tags again))
      (Description.layout own.description.finish)
      (holding dialect.language (inDescription heading tags [])) := by
  have plain := legible.description
  refine Description.yields_layout
    (fun again => holding dialect.language (inDescription heading tags again))
    (fun text listed => (plain text listed).single) (fun text listed => (plain text listed).solid) ?_
  intro text listed number current
  have role : dialect.role ⟨text, number⟩ = .plain := (plain text listed).role
  have unmarked : dialect.isSeparator ⟨text, number⟩ = false := legible.unmarked text listed
  have silent : (dialect.role ⟨text, number⟩).isStep = false := by rw [role]; rfl
  have free : dialect.isArgument ⟨text, number⟩ = false := by
    simp [Dialect.isArgument, role, unmarked]
  exact .inner rfl (.inr ⟨rfl, Dialect.routed_of_plain role⟩) (.description rfl rfl silent free)

/-- The written background, if there is one, is read back in the header of a feature. -/
theorem Legible.yields_header (legible : own.Legible dialect) (regular : dialect.language.Regular)
    (standard : dialect.separators = .standard) {header : Feature.Draft} {feature : Feature}
    {inOutline : Bool} (holds : header.Holds dialect.language.code feature inOutline)
    (bare : feature.background = none) (empty : feature.scenarios = []) :
    Yields (Continues dialect)
      (Reached dialect.language { feature with
        background := own.background.map fun background =>
          (background.finish.reread dialect.language).erased } inOutline)
      ((own.background.map fun background => [[]] ++ background.finish.layout).getD [])
      (holding dialect.language header) := by
  cases present : own.background with
  | none =>
      refine ⟨header, ?_, rfl⟩
      rw [Option.map_none, ← bare]
      exact holds
  | some background =>
      exact Document.Draft.yields_background (legible.background background present) regular standard
        holds bare empty

/-- The written feature is read back where nothing was read before. -/
theorem Legible.yields (legible : own.Legible dialect) (regular : dialect.language.Regular)
    (standard : dialect.separators = .standard) :
    Yields (Continues dialect) (fun reached => ∃ inOutline, Reached dialect.language
        ((own.finish dialect.language.code).reread dialect.language).erased inOutline reached)
      (own.finish dialect.language.code).undirected (start dialect.language) := by
  refine (Document.Draft.yields_tags (start dialect.language) regular rfl rfl legible.tags 0).append ?_
  rintro _ ⟨pending, tags, rfl⟩
  have origin := legible.heading
  refine ⟨origin.singleLine rfl _, fun number => ?_⟩
  have role := origin.role_layout regular rfl 0 number
  have heading := origin.erased_onLine regular rfl 0 number
  refine ⟨_, .feature rfl role rfl, ?_⟩
  refine (legible.yields_description _ pending.tags).append ?_
  rintro _ ⟨description, same, rfl⟩
  have holds : (inDescription (.onLine dialect.language ⟨own.heading.layout 0, number⟩) pending.tags
      description).Holds dialect.language.code
        { ((own.finish dialect.language.code).reread dialect.language).erased with
          background := none, scenarios := [] } false := by
    refine ⟨?_, rfl, rfl⟩
    simp [inDescription, finish, Feature.erased, Feature.reread, heading, tags, same]
  have written : (((own.finish dialect.language.code).background.map fun background =>
      [[]] ++ background.layout).getD [] ++ (own.finish dialect.language.code).scenarios.flatMap
        fun scenario => [[]] ++ scenario.layout) =
      (own.background.map fun background => [[]] ++ background.finish.layout).getD [] ++
        own.scenarios.reverse.flatMap fun scenario => [[]] ++ scenario.finish.layout := by
    simp only [finish, Option.map_map, List.flatMap_map, Function.comp_def]
  rw [written]
  refine (legible.yields_header regular standard holds rfl rfl).append ?_
  rintro _ ⟨header, holds, rfl⟩
  refine (Document.Draft.yields_scenarios
    (fun scenario listed => legible.scenarios scenario (List.mem_reverse.mp listed)) regular standard
    holds).mono ?_
  intro reached found
  simpa [finish, Feature.erased, Feature.reread, Function.comp_def] using found

end Feature.Draft

end Gherkin
