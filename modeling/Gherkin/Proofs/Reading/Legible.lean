import Gherkin.Proofs.DocString.Escaping
import Gherkin.Proofs.Reading.Run
import Gherkin.Proofs.Table.Writing
import Gherkin.Proofs.Tag.Writing
import Gherkin.Proofs.Writing.Heads

namespace Gherkin

open Text (EndsSolid SingleLine Trimmed)

/-!
# What reading puts into a document

Not every document can be written and read back: a name might have a newline, or
a cell whitespace at its ends.  A draft is legible if it has nothing that reading
a line could not have put there.  Reading keeps drafts legible line by line, so
nothing else is ever found in a document that was read.
-/

/-! ## Legible drafts -/

/-- A text that a line of a description can leave behind. -/
structure Description.Plain (dialect : Dialect) (text : Text) : Prop where
  single : SingleLine text
  solid : EndsSolid text
  role : dialect.role ⟨text, 0⟩ = .plain

/-- A heading that was read from a line with the given role. -/
def Heading.FromLine (dialect : Dialect) (role : Role) (heading : Heading) : Prop :=
  ∃ line : Line, SingleLine line.text ∧ dialect.role line = role ∧
    heading = .onLine dialect.language line

/-- A table of clean cells in which all rows have as many cells as the header. -/
structure Table.Draft.Legible (draft : Table.Draft) : Prop where
  header : ∀ value ∈ draft.header.values, Cell.Clean value
  cells : ∀ row ∈ draft.rows, ∀ value ∈ row.values, Cell.Clean value
  even : ∀ row ∈ draft.rows, row.cells.length = draft.header.cells.length

/-- A doc-string whose lines are single lines without escaped separators left to resolve. -/
structure DocString.Draft.Legible (dialect : Dialect) (draft : DocString.Draft) : Prop where
  separator : ∃ trimmed, dialect.separators.matching? trimmed = some draft.opening.separator
  mediaType : ∀ mediaType ∈ draft.opening.mediaType, mediaType ≠ [] ∧ Trimmed mediaType ∧
    SingleLine mediaType
  single : ∀ text ∈ draft.body, SingleLine text
  unescaped : ∀ text ∈ draft.body, text.isBlank = true ∨
    ∃ source, text = DocString.unescape draft.opening.separator source

/-- A step with a line that can have started it and a legible argument. -/
structure Step.Draft.Legible (dialect : Dialect) (draft : Step.Draft) : Prop where
  head : ∃ line, draft.finish.HeadFrom dialect.language line
  table : ∀ table ∈ draft.table, table.Legible
  docString : ∀ docString ∈ draft.docString, docString.Legible dialect

/-- A body of plain lines that start no doc-string and legible steps. -/
structure Body.Draft.Legible (dialect : Dialect) (draft : Body.Draft) : Prop where
  description : ∀ text ∈ draft.description, Description.Plain dialect text
  unmarked : ∀ text ∈ draft.description, dialect.isSeparator ⟨text, 0⟩ = false
  steps : ∀ step ∈ draft.steps, step.Legible dialect

/-- A background that can be written and read back. -/
structure Background.Draft.Legible (dialect : Dialect) (draft : Background.Draft) : Prop where
  heading : draft.heading.FromLine dialect .background
  body : draft.body.Legible dialect

/-- An examples block that can be written and read back. -/
structure Examples.Draft.Legible (dialect : Dialect) (draft : Examples.Draft) : Prop where
  heading : draft.heading.FromLine dialect .examples
  tags : ∀ tag ∈ draft.tags, tag.Proper
  description : ∀ text ∈ draft.description, Description.Plain dialect text
  table : ∀ table ∈ draft.table, table.Legible

/-- The role of the line that opens a scenario. -/
def Scenario.Draft.role (draft : Scenario.Draft) : Role :=
  if draft.isOutline then .scenarioOutline else .scenario

/-- A scenario that can be written and read back. -/
structure Scenario.Draft.Legible (dialect : Dialect) (draft : Scenario.Draft) : Prop where
  heading : draft.heading.FromLine dialect draft.role
  tags : ∀ tag ∈ draft.tags, tag.Proper
  body : draft.body.Legible dialect
  examples : ∀ block ∈ draft.examples, block.Legible dialect
  plain : draft.isOutline = false → draft.examples = []

/-- A feature that can be written and read back. -/
structure Feature.Draft.Legible (dialect : Dialect) (draft : Feature.Draft) : Prop where
  heading : draft.heading.FromLine dialect .feature
  tags : ∀ tag ∈ draft.tags, tag.Proper
  description : ∀ text ∈ draft.description, Description.Plain dialect text
  unmarked : ∀ text ∈ draft.description, dialect.isSeparator ⟨text, 0⟩ = false
  background : ∀ background ∈ draft.background, background.Legible dialect
  scenarios : ∀ scenario ∈ draft.scenarios, scenario.Legible dialect

/-- A document that can be written and read back. -/
structure Document.Draft.Legible (dialect : Dialect) (draft : Document.Draft) : Prop where
  pending : ∀ tag ∈ draft.pending.tags, tag.Proper
  feature : ∀ feature ∈ draft.feature, feature.Legible dialect

/-! ## Lines of a description -/

variable {dialect : Dialect} {line : Line}

theorem Description.plain_trimEnd (single : SingleLine line.text) (role : dialect.role line = .plain) :
    Description.Plain dialect line.text.trimEnd where
  single := single.trimEnd
  solid := Text.endsSolid_trimEnd line.text
  role := by
    rw [← role]
    exact congrArg Classification.role (Classification.ofText_congr (Text.trim_trimEnd line.text))

theorem Dialect.isSeparator_trimEnd (dialect : Dialect) (line : Line) :
    dialect.isSeparator ⟨line.text.trimEnd, 0⟩ = dialect.isSeparator line := by
  have same : Text.trim line.text.trimEnd = line.trimmed := Text.trim_trimEnd line.text
  rw [isSeparator, isSeparator, ← same]
  rfl

theorem Description.plain_add {description : Description.Draft}
    (plain : ∀ text ∈ description, Description.Plain dialect text) (single : SingleLine line.text)
    (role : dialect.role line = .plain) :
    ∀ text ∈ description.add line, Description.Plain dialect text :=
  List.forall_mem_cons.mpr ⟨Description.plain_trimEnd single role, plain⟩

theorem Description.unmarked_add {description : Description.Draft}
    (unmarked : ∀ text ∈ description, dialect.isSeparator ⟨text, 0⟩ = false)
    (free : dialect.isSeparator line = false) :
    ∀ text ∈ description.add line, dialect.isSeparator ⟨text, 0⟩ = false :=
  List.forall_mem_cons.mpr ⟨(dialect.isSeparator_trimEnd line).trans free, unmarked⟩

/-! ## Rows -/

theorem Table.Draft.legible_add {table : Option Table.Draft}
    (legible : ∀ draft ∈ table, draft.Legible) (faultless : (Table.Draft.add table line).2 = []) :
    (Table.Draft.add table line).1.Legible := by
  have clean : ∀ value ∈ (Row.onLine line).values, Cell.Clean value := by
    intro value listed
    rcases List.mem_map.mp listed with ⟨cell, among, rfl⟩
    exact Row.clean_of_mem_cellsOnLine among
  cases table with
  | none => exact ⟨clean, nofun, nofun⟩
  | some draft =>
      have before := legible draft rfl
      refine ⟨before.header, ?_, ?_⟩
      · intro row listed
        rcases List.mem_cons.mp listed with rfl | listed
        · exact clean
        · exact before.cells row listed
      · intro row listed
        rcases List.mem_cons.mp listed with rfl | listed
        · simp only [Table.Draft.add] at faultless
          split_ifs at faultless with same
          exact same
        · exact before.even row listed

/-! ## Doc-strings -/

theorem DocString.Draft.legible_opening {opening : DocString.Opening} (single : SingleLine line.text)
    (opens : DocString.Opening.onLine? dialect.separators line = some opening) :
    DocString.Draft.Legible dialect ⟨opening, [], true⟩ := by
  rcases Option.map_eq_some_iff.mp opens with ⟨separator, found, rfl⟩
  refine ⟨⟨line.trimmed, found⟩, ?_, nofun, nofun⟩
  intro mediaType given
  simp only [Option.mem_def] at given
  split_ifs at given with empty
  cases given
  refine ⟨by simpa using empty, Text.trimmed_trim _, ?_⟩
  exact (single.trim.of_subset fun _ listed => List.mem_of_mem_drop listed).trim

theorem DocString.Draft.Legible.add {draft : DocString.Draft} (legible : draft.Legible dialect)
    (standard : dialect.separators = .standard) (single : SingleLine line.text) :
    (draft.add line).Legible dialect := by
  unfold DocString.Draft.add
  split_ifs with shut closing
  · exact legible
  · exact { legible with }
  · rcases legible.separator with ⟨trimmed, found⟩
    rw [standard] at found
    rcases DocString.exists_triple_of_standard found with ⟨mark, triple⟩
    refine ⟨legible.separator, legible.mediaType, ?_, ?_⟩
    · intro text listed
      rcases List.mem_cons.mp listed with rfl | listed
      · unfold DocString.Opening.bodyLine
        split_ifs
        · exact single
        · exact triple.singleLine_unescape (single.unindent draft.opening.indent)
      · exact legible.single text listed
    · intro text listed
      rcases List.mem_cons.mp listed with rfl | listed
      · unfold DocString.Opening.bodyLine
        split_ifs with white
        · exact .inl white
        · exact .inr ⟨_, rfl⟩
      · exact legible.unescaped text listed

/-! ## Bodies -/

theorem Step.Draft.legible_onLine? {start : Step.Draft} (single : SingleLine line.text)
    (starts : Step.Draft.onLine? dialect line = some start) : start.Legible dialect := by
  have role := Step.Draft.exists_role_of_onLine? starts
  have own : (line.classify dialect.language).role = .step start.kind := role
  have same := Step.Draft.onLine?_of_role role
  rw [starts, Option.some.injEq] at same
  rw [same]
  refine ⟨⟨line, ⟨single, ?_, ?_⟩⟩, nofun, nofun⟩
  · exact congrArg (fun role => (⟨role, (line.classify dialect.language).keyword⟩ : Classification)) own
  · exact congrArg
      (fun role => line.textAfter ⟨role, (line.classify dialect.language).keyword⟩) own.symm

namespace Step.Draft.Legible

variable {step : Step.Draft}

theorem withTable (legible : step.Legible dialect) {table : Table.Draft} (own : table.Legible) :
    Step.Draft.Legible dialect { step with table := some table } := by
  rcases legible.head with ⟨source, head⟩
  refine ⟨⟨source, ⟨head.single, head.classified, head.text⟩⟩, ?_, legible.docString⟩
  intro other given
  cases given
  exact own

theorem withDocString (legible : step.Legible dialect) {docString : DocString.Draft}
    (own : docString.Legible dialect) :
    Step.Draft.Legible dialect { step with docString := some docString } := by
  rcases legible.head with ⟨source, head⟩
  refine ⟨⟨source, ⟨head.single, head.classified, head.text⟩⟩, legible.table, ?_⟩
  intro other given
  cases given
  exact own

end Step.Draft.Legible

namespace Body.Draft

variable {body next : Body.Draft}

theorem Legible.withStep (legible : body.Legible dialect) {step changed : Step.Draft}
    {earlier : Step.Sequence} (steps : body.steps = step :: earlier)
    (own : step.Legible dialect → changed.Legible dialect) :
    Body.Draft.Legible dialect { body with steps := changed :: earlier } := by
  have all := legible.steps
  rw [steps, List.forall_mem_cons] at all
  exact { legible with steps := List.forall_mem_cons.mpr ⟨own all.1, all.2⟩ }

/-- A body stays legible with every line that it takes up without a fault. -/
theorem Legible.takes (legible : body.Legible dialect) (standard : dialect.separators = .standard)
    (single : SingleLine line.text) (routed : body.inDocString = true ∨ dialect.Routed line)
    (taken : Takes dialect line body next []) : next.Legible dialect := by
  generalize noFaults : ([] : List Fault) = faults at taken
  cases taken with
  | content steps unfinished isOpen =>
      exact legible.withStep steps fun before =>
        before.withDocString ((before.docString _ unfinished).add standard single)
  | step outside starts =>
      exact { legible with steps :=
        List.forall_mem_cons.mpr ⟨Step.Draft.legible_onLine? single starts, legible.steps⟩ }
  | row steps free role unmarked =>
      exact legible.withStep steps fun before =>
        before.withTable (Table.Draft.legible_add before.table noFaults.symm)
  | opening steps free silent admitted opens =>
      exact legible.withStep steps fun before =>
        before.withDocString (DocString.Draft.legible_opening single opens)
  | blank steps outside white => exact legible
  | description steps silent free =>
      have outside : body.inDocString = false := inDocString_of_steps_nil steps
      rcases (routed.resolve_left (by simp [outside])).plain silent free with ⟨role, unmarked⟩
      exact { legible with
        description := Description.plain_add legible.description single role
        unmarked := Description.unmarked_add legible.unmarked unmarked }

end Body.Draft

/-! ## Examples blocks -/

theorem Examples.Draft.Legible.add {block next : Examples.Draft} (legible : block.Legible dialect)
    (single : SingleLine line.text) (routed : dialect.Routed line)
    (taken : block.add dialect line = .ok (next, [])) : next.Legible dialect := by
  simp only [Examples.Draft.add] at taken
  split_ifs at taken with row begun white step
  · simp only [Except.ok.injEq, Prod.mk.injEq] at taken
    rcases taken with ⟨rfl, faultless⟩
    refine { legible with table := ?_ }
    intro table given
    cases given
    exact Table.Draft.legible_add legible.table faultless
  · cases taken
    exact legible
  · cases taken
    have role := Dialect.plain_of_routed (Bool.eq_false_iff.mpr step) row routed
    exact { legible with description := Description.plain_add legible.description single role }

/-! ## Scenarios -/

namespace Scenario.Draft.Legible

variable {scenario : Scenario.Draft} {block : Examples.Draft}

theorem withBlock (legible : scenario.Legible dialect) {changed : Examples.Draft}
    {blocks : List Examples.Draft} (examples : scenario.examples = block :: blocks)
    (own : block.Legible dialect → changed.Legible dialect) :
    Scenario.Draft.Legible dialect { scenario with examples := changed :: blocks } := by
  have all := legible.examples
  rw [examples, List.forall_mem_cons] at all
  refine { legible with examples := List.forall_mem_cons.mpr ⟨own all.1, all.2⟩, plain := ?_ }
  intro plain
  have none := legible.plain plain
  rw [examples] at none
  cases none

theorem addExamples (legible : scenario.Legible dialect) (isOutline : scenario.isOutline = true)
    (own : block.Legible dialect) :
    Scenario.Draft.Legible dialect { scenario with examples := block :: scenario.examples } := by
  refine { legible with examples := List.forall_mem_cons.mpr ⟨own, legible.examples⟩, plain := ?_ }
  intro plain
  rw [isOutline] at plain
  cases plain

end Scenario.Draft.Legible

/-! ## Features -/

namespace Feature.Draft

variable {feature next : Feature.Draft}

theorem Legible.withScenario (legible : feature.Legible dialect) {scenario changed : Scenario.Draft}
    {earlier : List Scenario.Draft} (scenarios : feature.scenarios = scenario :: earlier)
    (own : scenario.Legible dialect → changed.Legible dialect) :
    Feature.Draft.Legible dialect { feature with scenarios := changed :: earlier } := by
  have all := legible.scenarios
  rw [scenarios, List.forall_mem_cons] at all
  exact { legible with scenarios := List.forall_mem_cons.mpr ⟨own all.1, all.2⟩ }

theorem Legible.withBackground (legible : feature.Legible dialect) {background : Background.Draft}
    (own : background.Legible dialect) :
    Feature.Draft.Legible dialect { feature with background := some background } := by
  refine { legible with background := ?_ }
  intro other given
  cases given
  exact own

/-- A feature stays legible with every line that goes to it. -/
theorem Legible.takes (legible : feature.Legible dialect) (standard : dialect.separators = .standard)
    (single : SingleLine line.text) (routed : feature.inDocString = true ∨ dialect.Routed line)
    (taken : Takes dialect line feature next []) : next.Legible dialect := by
  cases taken with
  | scenario scenarios inBody taken =>
      rw [inDocString_of_scenarios scenarios] at routed
      exact legible.withScenario scenarios fun before =>
        { before with body := before.body.takes standard single routed taken }
  | examples scenarios outside examples taken =>
      rw [inDocString_of_scenarios scenarios, outside] at routed
      have free : dialect.Routed line := routed.resolve_left Bool.false_ne_true
      exact legible.withScenario scenarios fun before =>
        before.withBlock examples fun own => own.add single free taken
  | background scenarios present taken =>
      rw [inDocString_of_background scenarios present] at routed
      have before := legible.background _ present
      exact legible.withBackground
        { before with body := before.body.takes standard single routed taken }
  | description scenarios absent silent free =>
      have outside : feature.inDocString = false := by simp [inDocString, scenarios, absent]
      rcases (routed.resolve_left (by simp [outside])).plain silent free with ⟨role, unmarked⟩
      exact { legible with
        description := Description.plain_add legible.description single role
        unmarked := Description.unmarked_add legible.unmarked unmarked }

end Feature.Draft

/-! ## Documents -/

namespace Document.Draft

variable {draft next : Document.Draft}

theorem legible_start (dialect : Dialect) (language : Language) : (start language).Legible dialect :=
  ⟨nofun, nofun⟩

theorem legible_withFeature {feature : Feature.Draft} (own : feature.Legible dialect) :
    (draft.withFeature feature).Legible dialect := by
  refine ⟨nofun, ?_⟩
  intro other given
  cases given
  exact own

/-- A document stays legible with every line that it takes up without a fault. -/
theorem Legible.takes (legible : draft.Legible dialect) (standard : dialect.separators = .standard)
    (single : SingleLine line.text) (taken : Takes dialect line draft next []) :
    next.Legible dialect := by
  generalize noFaults : ([] : List Fault) = faults at taken
  cases taken with
  | comment outside role => exact { legible with }
  | tag outside role =>
      refine { legible with pending := ?_ }
      intro tag listed
      rcases List.mem_append.mp listed with listed | listed
      · exact legible.pending tag listed
      · exact Tag.proper_of_mem_onLine listed
  | blank outside white idle => exact legible
  | feature outside role absent =>
      exact legible_withFeature
        ⟨⟨line, single, role, rfl⟩, legible.pending, nofun, nofun, nofun, nofun⟩
  | background outside role present unclaimed inHeader =>
      exact legible_withFeature ((legible.feature _ present).withBackground
        ⟨⟨line, single, role, rfl⟩, nofun, nofun, nofun⟩)
  | scenario outside role present =>
      have before := legible.feature _ present
      have fresh : (Scenario.Draft.onLine dialect draft.pending.tags line).Legible dialect := by
        refine ⟨⟨line, single, ?_, rfl⟩, legible.pending, ⟨nofun, nofun, nofun⟩, nofun, fun _ => rfl⟩
        rcases role with role | role <;>
          simp [Scenario.Draft.role, Scenario.Draft.onLine, role]
      exact legible_withFeature
        { before with scenarios := List.forall_mem_cons.mpr ⟨fresh, before.scenarios⟩ }
  | examples outside role present scenarios isOutline =>
      exact legible_withFeature ((legible.feature _ present).withScenario scenarios fun own =>
        own.addExamples isOutline ⟨⟨line, single, role, rfl⟩, legible.pending, nofun, nofun⟩)
  | @inner feature next _ present routed taken =>
      cases noFaults
      refine ⟨legible.pending, ?_⟩
      intro other given
      cases given
      have forwarded : feature.inDocString = true ∨ dialect.Routed line := by
        rw [inDocString_of_feature present] at routed
        exact routed.imp_right And.right
      exact (legible.feature feature present).takes standard single forwarded taken

/-- What is read from single lines is legible. -/
theorem Reads.legible {final : Document.Draft} {lines : List Line}
    (run : Reads dialect draft lines final) (standard : dialect.separators = .standard)
    (single : ∀ line ∈ lines, SingleLine line.text) (legible : draft.Legible dialect) :
    final.Legible dialect := by
  induction run with
  | nil => exact legible
  | cons taken later inductionHypothesis =>
      exact inductionHypothesis (fun other listed => single other (List.mem_cons_of_mem _ listed))
        (legible.takes standard (single _ List.mem_cons_self) taken)

end Document.Draft

end Gherkin
