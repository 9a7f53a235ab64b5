import Gherkin.Proofs.Document.WellFormed
import Gherkin.Proofs.Language.Directive
import Gherkin.Proofs.Reading.Refusal
import Gherkin.Proofs.Text.Substitution

namespace Gherkin

open Text (EndsSolid SingleLine Trimmed)

/-!
# Reading gives well-formed documents

Each construct trims what it takes from a line, so most of what makes a document well-formed holds
from the line on which a construct begins.  Descriptions, tables and doc-strings grow, and what
their lines have in common is carried along until they are finished.

Nothing here depends on the separators or on the absence of faults.  A line that is refused leaves
nothing behind, a row is clean also if it is uneven, and a tag with whitespace in its name is none.
The language of a document is settled before its feature begins: only the first line can name it.
-/

/-! ## Lines of descriptions and doc-strings -/

namespace Text

/-- The lines of a text that was joined without the blank lines around it, if there are any. -/
theorem lines_joinLines_innerLines {parts : List Text} (single : ∀ part ∈ parts, SingleLine part)
    (present : innerLines parts ≠ []) : lines (joinLines (innerLines parts)) = innerLines parts :=
  lines_joinLines (fun part listed => single part (mem_of_mem_innerLines listed)) present

end Text

namespace Description.Draft

/-- The lines of a description have lost the whitespace at their ends. -/
def WellFormed (draft : Description.Draft) : Prop :=
  ∀ text ∈ draft, SingleLine text ∧ EndsSolid text

theorem WellFormed.add {draft : Description.Draft} (wellFormed : draft.WellFormed) {line : Line}
    (single : SingleLine line.text) : (draft.add line).WellFormed := by
  intro text listed
  rcases List.mem_cons.mp listed with rfl | listed
  · exact ⟨single.trimEnd, Text.endsSolid_trimEnd line.text⟩
  · exact wellFormed text listed

theorem WellFormed.finish {draft : Description.Draft} (wellFormed : draft.WellFormed) :
    ∀ text ∈ draft.finish, Description.WellFormed text := by
  intro text given
  unfold Description.Draft.finish at given
  cases kept : Text.innerLines draft.reverse with
  | nil =>
      rw [kept] at given
      cases given
  | cons first rest =>
      rw [kept] at given
      cases given
      have present : Text.innerLines draft.reverse ≠ [] := by
        rw [kept]
        exact List.cons_ne_nil first rest
      have lines := Text.lines_joinLines_innerLines
        (fun part listed => (wellFormed part (List.mem_reverse.mp listed)).1) present
      rw [← kept]
      refine ⟨fun none => present (Text.joinLines_innerLines_eq_nil_iff.mp none), ?_, ?_⟩
      · rw [lines]
        exact Text.inner_innerLines draft.reverse
      · intro part listed
        rw [lines] at listed
        exact (wellFormed part (List.mem_reverse.mp (Text.mem_of_mem_innerLines listed))).2

end Description.Draft

/-! ## Tables and doc-strings -/

theorem Row.clean_onLine (line : Line) : (Row.onLine line).Clean :=
  fun _ listed => Row.clean_of_mem_cellsOnLine listed

namespace Table.Draft

/-- A table of clean cells. -/
structure WellFormed (draft : Draft) : Prop where
  header : draft.header.Clean
  rows : ∀ row ∈ draft.rows, row.Clean

theorem wellFormed_add {table : Option Draft} (wellFormed : ∀ draft ∈ table, draft.WellFormed)
    (line : Line) : (add table line).1.WellFormed := by
  cases table with
  | none => exact ⟨Row.clean_onLine line, nofun⟩
  | some draft =>
      have before := wellFormed draft rfl
      refine ⟨before.header, ?_⟩
      intro row listed
      rcases List.mem_cons.mp listed with rfl | listed
      · exact Row.clean_onLine line
      · exact before.rows row listed

theorem WellFormed.finish {draft : Draft} (wellFormed : draft.WellFormed) : draft.finish.WellFormed where
  columns := rfl
  body := rfl
  clean := by
    intro row listed
    rcases List.mem_cons.mp listed with rfl | below
    · exact wellFormed.header
    · exact wellFormed.rows row (List.mem_reverse.mp below)

end Table.Draft

namespace DocString.Draft

variable {draft : Draft} {line : Line}

/-- A doc-string of single lines.  Its separator has no newline either, which matters because
resolving an escape puts the separator into a line. -/
structure WellFormed (draft : Draft) : Prop where
  mediaType : ∀ mediaType ∈ draft.opening.mediaType, mediaType ≠ [] ∧ Trimmed mediaType
  separator : SingleLine draft.opening.separator
  body : ∀ text ∈ draft.body, SingleLine text

theorem wellFormed_opening {separators : Separators} {opening : Opening} (single : SingleLine line.text)
    (opens : Opening.onLine? separators line = some opening) : WellFormed ⟨opening, [], true⟩ := by
  rcases Option.map_eq_some_iff.mp opens with ⟨separator, found, rfl⟩
  refine ⟨?_, ?_, nofun⟩
  · intro mediaType given
    simp only [Option.mem_def] at given
    split_ifs at given with empty
    cases given
    exact ⟨by simpa using empty, Text.trimmed_trim _⟩
  · have starts := (Separators.prefix_of_matching? found).2
    exact single.trim.of_subset fun _ listed => starts.subset listed

theorem WellFormed.add (wellFormed : draft.WellFormed) (single : SingleLine line.text) :
    (draft.add line).WellFormed := by
  unfold DocString.Draft.add
  split_ifs with shut closing
  · exact wellFormed
  · exact { wellFormed with }
  · refine ⟨wellFormed.mediaType, wellFormed.separator, ?_⟩
    intro text listed
    rcases List.mem_cons.mp listed with rfl | listed
    · unfold Opening.bodyLine
      split_ifs with blank
      · exact single
      · exact Text.singleLine_replaceAll wellFormed.separator (single.unindent _)
    · exact wellFormed.body text listed

theorem WellFormed.finish (wellFormed : draft.WellFormed) : draft.finish.WellFormed where
  mediaType := wellFormed.mediaType
  content := by
    by_cases empty : Text.innerLines draft.body.reverse = []
    · exact .inl (Text.joinLines_innerLines_eq_nil_iff.mpr empty)
    · have lines := Text.lines_joinLines_innerLines
        (fun part listed => wellFormed.body part (List.mem_reverse.mp listed)) empty
      refine .inr ?_
      rw [DocString.Draft.finish, lines]
      exact Text.inner_innerLines draft.body.reverse

end DocString.Draft

/-! ## Keywords -/

namespace Classification

variable {language : Language} {text : Text}

/-- A keyword is a word of the language for its role, or is understood in every language. -/
theorem mem_words_of_role (solid : (ofText language text).role ≠ .plain) :
    (ofText language text).keyword ∈ language.words (ofText language text).role ∨
      ofText language text ∈ common := by
  rcases List.mem_append.mp (mem_candidates_of_role solid).1 with spoken | shared
  · rcases List.mem_flatMap.mp spoken with ⟨role, -, word⟩
    rcases List.mem_map.mp word with ⟨keyword, listed, same⟩
    rw [← same]
    exact .inl listed
  · exact .inr shared

/-- No word for outlines is understood in every language. -/
theorem mem_outlines_of_role (role : (ofText language text).role = .scenarioOutline) :
    (ofText language text).keyword ∈ language.outlines := by
  have foreign : ∀ candidate ∈ common, candidate.role ≠ .scenarioOutline := by decide
  rcases mem_words_of_role (by rw [role]; decide) with spoken | shared
  · rwa [role] at spoken
  · exact absurd role (foreign _ shared)

end Classification

theorem Heading.trimmed_onLine (language : Language) (line : Line) :
    Trimmed (Heading.onLine language line).name :=
  Text.trimmed_trim _

/-! ## Steps -/

namespace Step.Draft

variable {language : Language}

/-- A step whose table and doc-string are both well-formed, whichever becomes its argument. -/
structure WellFormed (language : Language) (draft : Draft) : Prop where
  text : Trimmed draft.text
  keyword : draft.kind.Spoken language draft.keyword
  table : ∀ table ∈ draft.table, table.WellFormed
  docString : ∀ docString ∈ draft.docString, docString.WellFormed

theorem wellFormed_onLine? {dialect : Dialect} {line : Line} {start : Draft}
    (starts : onLine? dialect line = some start) : start.WellFormed dialect.language := by
  have role : (line.classify dialect.language).role = .step start.kind := exists_role_of_onLine? starts
  have same := onLine?_of_role role
  rw [starts, Option.some.injEq] at same
  rw [same]
  refine ⟨Text.trimmed_trim _, ?_, nofun, nofun⟩
  rcases Classification.mem_words_of_role (by rw [← Line.classify, role]; simp) with spoken | shared
  · rw [← Line.classify, role] at spoken
    exact .inl spoken
  · refine .inr ?_
    rw [← role]
    exact shared

theorem WellFormed.finish {draft : Draft} (wellFormed : draft.WellFormed language) :
    draft.finish.WellFormed language where
  text := wellFormed.text
  keyword := wellFormed.keyword
  argument := by
    intro argument given
    simp only [Step.Draft.finish, Step.Draft.argument] at given
    cases begun : draft.table with
    | some table =>
        rw [begun] at given
        cases given
        exact (wellFormed.table table begun).finish
    | none =>
        rw [begun] at given
        rcases Option.map_eq_some_iff.mp given with ⟨docString, opened, rfl⟩
        exact (wellFormed.docString docString opened).finish

end Step.Draft

/-! ## Bodies and examples blocks -/

namespace Body.Draft

variable {language : Language} {dialect : Dialect} {line : Line} {body next : Body.Draft}
  {faults : List Fault}

structure WellFormed (language : Language) (draft : Body.Draft) : Prop where
  description : draft.description.WellFormed
  steps : ∀ step ∈ draft.steps, step.WellFormed language

theorem wellFormed_empty (language : Language) : empty.WellFormed language :=
  ⟨nofun, nofun⟩

/-- Changing the last step is a change of one step. -/
theorem WellFormed.withStep (wellFormed : body.WellFormed language) {step changed : Step.Draft}
    {earlier : Step.Sequence} (steps : body.steps = step :: earlier)
    (good : step.WellFormed language → changed.WellFormed language) :
    WellFormed language { body with steps := changed :: earlier } := by
  have all := wellFormed.steps
  rw [steps, List.forall_mem_cons] at all
  exact { wellFormed with steps := List.forall_mem_cons.mpr ⟨good all.1, all.2⟩ }

theorem WellFormed.takes (wellFormed : body.WellFormed dialect.language) (single : SingleLine line.text)
    (taken : Takes dialect line body next faults) : next.WellFormed dialect.language := by
  cases taken with
  | @content step earlier docString steps unfinished isOpen =>
      refine wellFormed.withStep steps fun before => { before with docString := ?_ }
      intro other given
      cases given
      exact (before.docString docString unfinished).add single
  | step outside starts =>
      exact { wellFormed with steps :=
        List.forall_mem_cons.mpr ⟨Step.Draft.wellFormed_onLine? starts, wellFormed.steps⟩ }
  | row steps free role unmarked =>
      refine wellFormed.withStep steps fun before => { before with table := ?_ }
      intro table given
      cases given
      exact Table.Draft.wellFormed_add before.table line
  | opening steps free silent admitted opens =>
      refine wellFormed.withStep steps fun before => { before with docString := ?_ }
      intro docString given
      cases given
      exact DocString.Draft.wellFormed_opening single opens
  | blank => exact wellFormed
  | description => exact ⟨wellFormed.description.add single, wellFormed.steps⟩

theorem WellFormed.finish_steps (wellFormed : body.WellFormed language) :
    ∀ step ∈ body.steps.finish, step.WellFormed language := by
  intro step listed
  rcases List.mem_map.mp listed with ⟨draft, among, rfl⟩
  exact (wellFormed.steps draft (List.mem_reverse.mp among)).finish

end Body.Draft

namespace Background.Draft

structure WellFormed (language : Language) (draft : Background.Draft) : Prop where
  name : Trimmed draft.heading.name
  body : draft.body.WellFormed language

theorem WellFormed.finish {language : Language} {draft : Background.Draft}
    (wellFormed : draft.WellFormed language) : draft.finish.WellFormed language :=
  ⟨wellFormed.name, wellFormed.body.description.finish, wellFormed.body.finish_steps⟩

end Background.Draft

namespace Examples.Draft

structure WellFormed (draft : Examples.Draft) : Prop where
  name : Trimmed draft.heading.name
  tags : ∀ tag ∈ draft.tags, tag.Proper
  description : draft.description.WellFormed
  table : ∀ table ∈ draft.table, table.WellFormed

theorem wellFormed_onLine (dialect : Dialect) {tags : List Tag} (proper : ∀ tag ∈ tags, tag.Proper)
    (line : Line) : (onLine dialect tags line).WellFormed :=
  ⟨Heading.trimmed_onLine dialect.language line, proper, nofun, nofun⟩

theorem WellFormed.add {dialect : Dialect} {line : Line} {block next : Examples.Draft}
    {faults : List Fault} (wellFormed : block.WellFormed) (single : SingleLine line.text)
    (taken : block.add dialect line = .ok (next, faults)) : next.WellFormed := by
  simp only [Examples.Draft.add] at taken
  split_ifs at taken with role begun white step
  · cases taken
    refine { wellFormed with table := ?_ }
    intro table given
    cases given
    exact Table.Draft.wellFormed_add wellFormed.table line
  · cases taken
    exact wellFormed
  · cases taken
    exact { wellFormed with description := wellFormed.description.add single }

theorem WellFormed.finish {draft : Examples.Draft} (wellFormed : draft.WellFormed) :
    draft.finish.WellFormed where
  name := wellFormed.name
  description := wellFormed.description.finish
  tags := wellFormed.tags
  table := by
    intro table given
    rcases Option.map_eq_some_iff.mp given with ⟨rows, begun, rfl⟩
    exact (wellFormed.table rows begun).finish

end Examples.Draft

/-! ## Scenarios and features -/

namespace Scenario.Draft

variable {language : Language}

structure WellFormed (language : Language) (draft : Scenario.Draft) : Prop where
  name : Trimmed draft.heading.name
  tags : ∀ tag ∈ draft.tags, tag.Proper
  body : draft.body.WellFormed language
  examples : ∀ block ∈ draft.examples, block.WellFormed
  outline : draft.isOutline = true → draft.heading.keyword ∈ language.outlines
  plain : draft.isOutline = false → draft.examples = []

theorem wellFormed_onLine (dialect : Dialect) {tags : List Tag} (proper : ∀ tag ∈ tags, tag.Proper)
    (line : Line) : (onLine dialect tags line).WellFormed dialect.language where
  name := Heading.trimmed_onLine dialect.language line
  tags := proper
  body := Body.Draft.wellFormed_empty dialect.language
  examples := nofun
  outline := fun isOutline => Classification.mem_outlines_of_role (of_decide_eq_true isOutline)
  plain := fun _ => rfl

theorem WellFormed.withBlock {draft : Scenario.Draft} (wellFormed : draft.WellFormed language)
    {block changed : Examples.Draft} {blocks : List Examples.Draft}
    (examples : draft.examples = block :: blocks) (good : block.WellFormed → changed.WellFormed) :
    WellFormed language { draft with examples := changed :: blocks } := by
  have all := wellFormed.examples
  rw [examples, List.forall_mem_cons] at all
  refine { wellFormed with examples := List.forall_mem_cons.mpr ⟨good all.1, all.2⟩, plain := ?_ }
  intro plain
  have none := wellFormed.plain plain
  rw [examples] at none
  cases none

theorem WellFormed.addExamples {draft : Scenario.Draft} (wellFormed : draft.WellFormed language)
    (isOutline : draft.isOutline = true) {block : Examples.Draft} (good : block.WellFormed) :
    WellFormed language { draft with examples := block :: draft.examples } := by
  refine { wellFormed with
    examples := List.forall_mem_cons.mpr ⟨good, wellFormed.examples⟩, plain := ?_ }
  intro plain
  rw [isOutline] at plain
  cases plain

theorem WellFormed.finish {draft : Scenario.Draft} (wellFormed : draft.WellFormed language) :
    draft.finish.WellFormed language where
  name := wellFormed.name
  description := wellFormed.body.description.finish
  tags := wellFormed.tags
  steps := wellFormed.body.finish_steps
  examples := by
    intro block listed
    rcases List.mem_map.mp listed with ⟨draft, among, rfl⟩
    exact (wellFormed.examples draft (List.mem_reverse.mp among)).finish
  outline := by
    intro present
    cases isOutline : draft.isOutline with
    | true => exact wellFormed.outline isOutline
    | false =>
        refine absurd ?_ present
        simp [Scenario.Draft.finish, wellFormed.plain isOutline]

end Scenario.Draft

namespace Feature.Draft

variable {language : Language} {dialect : Dialect} {line : Line} {feature next : Feature.Draft}
  {faults : List Fault}

structure WellFormed (language : Language) (draft : Feature.Draft) : Prop where
  name : Trimmed draft.heading.name
  tags : ∀ tag ∈ draft.tags, tag.Proper
  description : draft.description.WellFormed
  background : ∀ background ∈ draft.background, background.WellFormed language
  scenarios : ∀ scenario ∈ draft.scenarios, scenario.WellFormed language

theorem wellFormed_onLine (dialect : Dialect) {tags : List Tag} (proper : ∀ tag ∈ tags, tag.Proper)
    (line : Line) : (onLine dialect tags line).WellFormed dialect.language :=
  ⟨Heading.trimmed_onLine dialect.language line, proper, nofun, nofun, nofun⟩

/-- Changing the last scenario is a change of one scenario. -/
theorem WellFormed.withScenario (wellFormed : feature.WellFormed language)
    {scenario changed : Scenario.Draft} {earlier : List Scenario.Draft}
    (scenarios : feature.scenarios = scenario :: earlier)
    (good : scenario.WellFormed language → changed.WellFormed language) :
    WellFormed language { feature with scenarios := changed :: earlier } := by
  have all := wellFormed.scenarios
  rw [scenarios, List.forall_mem_cons] at all
  exact { wellFormed with scenarios := List.forall_mem_cons.mpr ⟨good all.1, all.2⟩ }

theorem WellFormed.withBackground (wellFormed : feature.WellFormed language)
    {background : Background.Draft} (good : background.WellFormed language) :
    WellFormed language { feature with background := some background } := by
  refine { wellFormed with background := ?_ }
  intro other given
  cases given
  exact good

theorem WellFormed.takes (wellFormed : feature.WellFormed dialect.language) (single : SingleLine line.text)
    (taken : Takes dialect line feature next faults) : next.WellFormed dialect.language := by
  cases taken with
  | scenario scenarios inBody taken =>
      exact wellFormed.withScenario scenarios fun before =>
        { before with body := before.body.takes single taken }
  | examples scenarios outside examples taken =>
      exact wellFormed.withScenario scenarios fun before =>
        before.withBlock examples fun own => own.add single taken
  | background scenarios present taken =>
      have before := wellFormed.background _ present
      exact wellFormed.withBackground { before with body := before.body.takes single taken }
  | description => exact { wellFormed with description := wellFormed.description.add single }

theorem WellFormed.finish (wellFormed : feature.WellFormed language) (code : Text) :
    (feature.finish code).WellFormed language where
  name := wellFormed.name
  description := wellFormed.description.finish
  tags := wellFormed.tags
  background := by
    intro background given
    rcases Option.map_eq_some_iff.mp given with ⟨draft, present, rfl⟩
    exact (wellFormed.background draft present).finish
  scenarios := by
    intro scenario listed
    rcases List.mem_map.mp listed with ⟨draft, among, rfl⟩
    exact (wellFormed.scenarios draft (List.mem_reverse.mp among)).finish

end Feature.Draft

/-! ## Documents -/

namespace Document.Draft

variable {settings : Settings} {dialect : Dialect} {line : Line} {draft next : Document.Draft}
  {faults : List Fault}

/-- A document whose language is listed under its code, and whose feature is well-formed in it. -/
structure WellFormed (languages : LanguageTable) (draft : Document.Draft) : Prop where
  known : languages.get? draft.language.code = some draft.language
  pending : ∀ tag ∈ draft.pending.tags, tag.Proper
  feature : ∀ feature ∈ draft.feature, feature.WellFormed draft.language

theorem wellFormed_empty (settings : Settings) : (empty settings).WellFormed settings.languages where
  known := LanguageTable.get?_code settings.languages.get?_defaultCode
  pending := nofun
  feature := nofun

/-- Opening a construct claims the pending tags. -/
theorem WellFormed.withFeature {languages : LanguageTable} (wellFormed : draft.WellFormed languages)
    {feature : Feature.Draft} (good : feature.WellFormed draft.language) :
    (draft.withFeature feature).WellFormed languages := by
  refine ⟨wellFormed.known, nofun, ?_⟩
  intro other given
  cases given
  exact good

theorem WellFormed.takes {languages : LanguageTable} (wellFormed : draft.WellFormed languages)
    (active : dialect.language = draft.language) (single : SingleLine line.text)
    (taken : Takes dialect line draft next faults) : next.WellFormed languages := by
  cases taken with
  | comment => exact { wellFormed with }
  | tag outside role =>
      refine { wellFormed with pending := ?_ }
      intro tag listed
      rcases List.mem_append.mp listed with listed | listed
      · exact wellFormed.pending tag listed
      · exact Tag.proper_of_mem_onLine listed
  | blank => exact wellFormed
  | feature outside role absent =>
      have good := Feature.Draft.wellFormed_onLine dialect wellFormed.pending line
      exact wellFormed.withFeature (active ▸ good)
  | background outside role present unclaimed inHeader =>
      exact wellFormed.withFeature ((wellFormed.feature _ present).withBackground
        ⟨Heading.trimmed_onLine dialect.language line, Body.Draft.wellFormed_empty draft.language⟩)
  | scenario outside role present =>
      have before := wellFormed.feature _ present
      have fresh := Scenario.Draft.wellFormed_onLine dialect wellFormed.pending line
      rw [active] at fresh
      exact wellFormed.withFeature
        { before with scenarios := List.forall_mem_cons.mpr ⟨fresh, before.scenarios⟩ }
  | examples outside role present scenarios isOutline =>
      exact wellFormed.withFeature ((wellFormed.feature _ present).withScenario scenarios fun own =>
        own.addExamples isOutline (Examples.Draft.wellFormed_onLine dialect wellFormed.pending line))
  | @inner feature later _ present routed taken =>
      refine { wellFormed with feature := ?_ }
      intro other given
      cases given
      have before := wellFormed.feature feature present
      rw [← active] at before ⊢
      exact before.takes single taken

/-- A document stays well-formed with every line, as long as no directive comes behind the start of
the feature. -/
theorem WellFormed.adds (wellFormed : draft.WellFormed settings.languages)
    (settled : draft.feature = none ∨ directive? line = none) (single : SingleLine line.text)
    (adds : Adds settings line draft next faults) : next.WellFormed settings.languages := by
  cases adds with
  | chosen named known =>
      have absent : draft.feature = none := settled.resolve_right (by simp [named])
      refine ⟨LanguageTable.get?_code known, wellFormed.pending, ?_⟩
      intro feature given
      cases absent.symm.trans given
  | unknown => exact { wellFormed with }
  | taken undirected taken =>
      have numbered : WellFormed settings.languages { draft with lastLine := line.number } :=
        { wellFormed with }
      exact numbered.takes rfl single taken
  | refused => exact ⟨wellFormed.known, nofun, wellFormed.feature⟩

/-- Only the first line can be a directive, and no feature begins before it. -/
theorem wellFormed_addAll (settings : Settings) {texts : List Text}
    (single : ∀ text ∈ texts, SingleLine text) :
    ((empty settings).addAll settings (Line.numberFrom 1 texts)).1.WellFormed settings.languages := by
  cases texts with
  | nil => exact wellFormed_empty settings
  | cons first rest =>
      have begun := (wellFormed_empty settings).adds (.inl rfl) (single first List.mem_cons_self)
        (adds_add settings (empty settings) ⟨first, 1⟩)
      have step : ∀ line ∈ Line.numberFrom 2 rest, ∀ {draft next faults},
          Adds settings line draft next faults →
            draft.WellFormed settings.languages → next.WellFormed settings.languages := by
        intro line listed draft next faults adds wellFormed
        have undirected := Line.directive?_numberFrom Nat.one_lt_two line listed
        have own := single line.text (List.mem_cons_of_mem _ (Line.mem_of_mem_numberFrom listed))
        exact wellFormed.adds (.inr undirected) own adds
      have kept := addAll_induction step begun
      exact kept

theorem WellFormed.finish {languages : LanguageTable} (wellFormed : draft.WellFormed languages)
    (uri : Text) : (draft.finish uri).WellFormed languages := by
  intro feature given
  rcases Option.map_eq_some_iff.mp given with ⟨own, present, rfl⟩
  exact ⟨draft.language, wellFormed.known, (wellFormed.feature own present).finish draft.language.code⟩

end Document.Draft

/-- What is read from a file is well-formed, whatever is faulty in it and whatever the settings. -/
theorem readDocument_wellFormed (settings : Settings) (uri source : Text) :
    (readDocument settings uri (Line.numberFrom 1 (fileLines source))).1.WellFormed settings.languages := by
  have single : ∀ text ∈ fileLines source, SingleLine text := fun _ => singleLine_of_mem_fileLines
  rw [readDocument_eq]
  exact (Document.Draft.wellFormed_addAll settings single).finish uri

end Gherkin
