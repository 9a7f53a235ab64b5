import Gherkin.Proofs.Grammar.Phase
import Gherkin.Proofs.Reading.Current
import Gherkin.Proofs.Reading.Run

namespace Gherkin

/-!
# The reader as an automaton

The place of a document says where its next line goes, with the phase of a body
and the width of a table where there is one.  Together with whether tags are
waiting it decides which lines are read next: the steps between places are
listed below, and for the standard separators they are exactly the steps of the
reader that leave no fault.
-/

/-- Where the next line of a document goes: to nothing yet, to the description of the
feature, to a body, or to an examples block, of whose table the number of columns is known
as soon as there is a row. -/
inductive Place
  | opening
  | header
  | body (owner : Body.Owner) (phase : Body.Phase)
  | examples (columns : Option Nat)

namespace Place

/-- The separator that closes the open doc-string, if there is one. -/
def separator? : Place → Option Text
  | body _ phase => phase.separator?
  | _ => none

/-- Whether the last scenario is an outline, to which examples can be added. -/
def InOutline : Place → Prop
  | body owner _ => owner = .outline
  | examples _ => True
  | _ => False

/-- The steps between places.  The flag tells whether tags are waiting. -/
inductive Step (dialect : Dialect) (line : Line) : Place → Bool → Place → Bool → Prop
  | trivial {place : Place} {waiting : Bool} (outside : place.separator? = none)
      (kind : dialect.kind line = .blank ∨ dialect.kind line = .comment) :
      Step dialect line place waiting place waiting
  | tag {place : Place} {waiting : Bool} (outside : place.separator? = none)
      (kind : dialect.kind line = .tag) (faultless : Tag.faultsOnLine line = []) :
      Step dialect line place waiting place true
  | feature {waiting : Bool} (kind : dialect.kind line = .feature) :
      Step dialect line .opening waiting .header false
  | text (kind : dialect.kind line = .text) : Step dialect line .header false .header false
  | background (kind : dialect.kind line = .background) :
      Step dialect line .header false (.body .background .description) false
  | scenario {place : Place} {waiting : Bool} (begun : place ≠ .opening)
      (outside : place.separator? = none) (kind : dialect.kind line = .scenario) :
      Step dialect line place waiting (.body .scenario .description) false
  | outline {place : Place} {waiting : Bool} (begun : place ≠ .opening)
      (outside : place.separator? = none) (kind : dialect.kind line = .scenarioOutline) :
      Step dialect line place waiting (.body .outline .description) false
  | examples {place : Place} {waiting : Bool} (inOutline : place.InOutline)
      (outside : place.separator? = none) (kind : dialect.kind line = .examples) :
      Step dialect line place waiting (.examples none) false
  | body {owner : Body.Owner} {phase next : Body.Phase}
      (step : Body.Phase.Step dialect line phase next) :
      Step dialect line (.body owner phase) false (.body owner next) false
  | note (kind : dialect.kind line = .text ∨ dialect.kind line = .separator) :
      Step dialect line (.examples none) false (.examples none) false
  | firstRow (kind : dialect.kind line = .row) :
      Step dialect line (.examples none) false (.examples (some (Row.cellsOnLine line).length)) false
  | row (kind : dialect.kind line = .row) :
      Step dialect line (.examples (some (Row.cellsOnLine line).length)) false
        (.examples (some (Row.cellsOnLine line).length)) false

variable {dialect : Dialect} {line : Line} {place later : Place} {waiting waits : Bool}

/-- Outside doc-strings, a tag line is read only if it has no faults. -/
theorem Step.faultless_of_tag (step : Step dialect line place waiting later waits)
    (outside : place.separator? = none) (kind : dialect.kind line = .tag) :
    Tag.faultsOnLine line = [] := by
  cases step with
  | tag _ _ faultless => exact faultless
  | body step => cases step <;> simp_all [separator?, Body.Phase.separator?]
  | _ => simp_all

/-- Outside doc-strings, blank lines and comments lead nowhere else. -/
theorem Step.eq_of_trivial (step : Step dialect line place waiting later waits)
    (outside : place.separator? = none)
    (kind : dialect.kind line = .blank ∨ dialect.kind line = .comment) :
    later = place ∧ waits = waiting := by
  cases step with
  | trivial => exact ⟨rfl, rfl⟩
  | body step => cases step <;> simp_all [separator?, Body.Phase.separator?]
  | _ => simp_all

/-- A doc-string is opened behind a step without an argument. -/
theorem Step.of_opening (step : Step dialect line place waiting later waits)
    (outside : place.separator? = none) {separator : Text} (opened : later.separator? = some separator) :
    waiting = false ∧ waits = false ∧ dialect.kind line = .separator ∧
      dialect.separators.matching? line.trimmed = some separator ∧
      ∃ owner, place = .body owner .bare ∧ later = .body owner (.docString separator) := by
  cases step with
  | body step =>
      cases step with
      | opening kind found =>
          cases opened
          exact ⟨rfl, rfl, kind, found, _, rfl, rfl⟩
      | blank none => exact absurd (none.symm.trans opened) nofun
      | content | closing => cases outside
      | _ => cases opened
  | trivial none | tag none => exact absurd (none.symm.trans opened) nofun
  | _ => cases opened

/-- In an open doc-string nothing counts but whether the line closes it. -/
theorem Step.of_inside (step : Step dialect line place waiting later waits) {separator : Text}
    (inside : place.separator? = some separator) :
    waiting = false ∧ waits = false ∧ ∃ owner, place = .body owner (.docString separator) ∧
      later = .body owner (if line.startsWith separator then .closed else .docString separator) := by
  cases step with
  | @body owner phase next step =>
      cases step with
      | content kept | closing kept =>
          cases inside
          exact ⟨rfl, rfl, owner, rfl, by simp [kept]⟩
      | blank none | step none => exact absurd (none.symm.trans inside) nofun
      | _ => cases inside
  | trivial none | tag none | scenario _ none | outline _ none | examples _ none =>
      exact absurd (none.symm.trans inside) nofun
  | _ => cases inside

end Place

namespace Examples.Draft

/-- The number of columns of the table of an examples block. -/
def columns (block : Examples.Draft) : Option Nat :=
  block.table.map fun table => table.header.cells.length

variable {dialect : Dialect} {line : Line} {block next : Examples.Draft}

theorem step_of_add (routed : dialect.role line ≠ .comment ∧ dialect.role line ≠ .tag ∧
      (dialect.role line).takesColon = false) (taken : block.add dialect line = .ok (next, [])) :
    Place.Step dialect line (.examples block.columns) false (.examples next.columns) false := by
  simp only [add] at taken
  split_ifs at taken with role begun white steps
  · have kind : dialect.kind line = .row := by simp [Dialect.kind, role]
    cases table : block.table with
    | none =>
        simp only [Table.Draft.add, table, Except.ok.injEq, Prod.mk.injEq, and_true] at taken
        rw [← taken]
        simp only [columns, table]
        exact .firstRow kind
    | some table =>
        simp only [Table.Draft.add, table, Except.ok.injEq, Prod.mk.injEq, ite_eq_left_iff,
          List.cons_ne_nil, imp_false, not_not] at taken
        rw [← taken.1]
        simp only [columns, table, Option.map_some, ← taken.2]
        exact .row kind
  · cases taken
    exact .trivial rfl (.inl (Dialect.kind_of_isBlank dialect white))
  · cases taken
    have bare : block.table = none := by simpa using begun
    have plain := Dialect.plain_of_routed (by simpa using steps) role routed
    simp only [columns, bare]
    cases white : line.isBlank with
    | true => exact .trivial rfl (.inl (Dialect.kind_of_isBlank dialect white))
    | false =>
        refine .note ?_
        rw [Dialect.kind_of_plain plain, white]
        cases dialect.isSeparator line <;> simp

theorem exists_add_of_row (kind : dialect.kind line = .row)
    (fits : ∀ count ∈ block.columns, (Row.cellsOnLine line).length = count) :
    ∃ next, block.add dialect line = .ok (next, []) ∧
      next.columns = some (Row.cellsOnLine line).length := by
  have role : dialect.role line = .tableRow := Dialect.shows_of_kind kind
  cases begun : block.table with
  | none =>
      refine ⟨_, by simp only [add, role, if_true, begun, Table.Draft.add]; rfl, ?_⟩
      simp [columns, Row.onLine]
  | some table =>
      have even : (Row.onLine line).cells.length = table.header.cells.length :=
        fits _ (by simp [columns, begun])
      refine ⟨_, by simp only [add, role, if_true, begun, Table.Draft.add, if_pos even]; rfl, ?_⟩
      simp [columns, ← even, Row.onLine]

theorem exists_add_of_note (bare : block.columns = none)
    (kind : dialect.kind line = .text ∨ dialect.kind line = .separator) :
    ∃ next, block.add dialect line = .ok (next, []) ∧ next.columns = none := by
  have plain : dialect.role line = .plain := by
    rcases kind with kind | kind
    · exact (Dialect.shows_of_kind kind).1
    · exact (Dialect.shows_of_kind kind).1
  have none : block.table = none := Option.map_eq_none_iff.mp bare
  exact ⟨_, by simp [add, plain, none, Role.isStep]; rfl, by simp [columns]⟩

theorem exists_add_of_blank (kind : dialect.kind line = .blank) :
    ∃ next, block.add dialect line = .ok (next, []) ∧ next.columns = block.columns := by
  rcases Dialect.shows_of_kind kind with ⟨plain, -, white⟩
  cases table : block.table with
  | none =>
      refine ⟨_, by simp [add, plain, table, Role.isStep]; rfl, ?_⟩
      simp [columns, table]
  | some table => exact ⟨block, by simp [add, plain, table, white], rfl⟩

end Examples.Draft

namespace Feature.Draft

/-- The place at which a feature is. -/
inductive At (feature : Feature.Draft) : Place → Prop
  | header (inHeader : feature.inHeader = true) : At feature .header
  | body {owner : Body.Owner} {body : Body.Draft} {put : Body.Draft → Feature.Draft}
      (current : Current feature owner body put) : At feature (.body owner body.phase)
  | examples {block : Examples.Draft} {set : Examples.Draft → Feature.Draft}
      (latest : Latest feature block set) : At feature (.examples block.columns)

variable {dialect : Dialect} {line : Line} {feature next : Feature.Draft} {place : Place}

theorem At.inDocString_eq (here : feature.At place) :
    feature.inDocString = place.separator?.isSome := by
  cases here with
  | header inHeader => exact inDocString_of_inHeader inHeader
  | body current => exact current.inDocString_eq.trans (Body.Draft.inDocString_eq _)
  | examples latest => exact latest.inDocString_eq

theorem At.eq_header (here : feature.At place) (inHeader : feature.inHeader = true) :
    place = .header := by
  rcases inHeader_iff.mp inHeader with ⟨absent, none⟩
  cases here with
  | header => rfl
  | body current => cases current <;> simp_all
  | examples latest => cases latest; simp_all

theorem At.exists_outline (here : feature.At place) (inOutline : place.InOutline) :
    ∃ scenario earlier, feature.scenarios = scenario :: earlier ∧ scenario.isOutline = true := by
  cases here with
  | header => cases inOutline
  | body current =>
      cases current with
      | background | scenario => cases inOutline
      | outline scenarios examples isOutline => exact ⟨_, _, scenarios, isOutline⟩
  | examples latest =>
      cases latest with
      | examples scenarios isOutline closed examples => exact ⟨_, _, scenarios, isOutline⟩

theorem At.inOutline {scenario : Scenario.Draft} {earlier : List Scenario.Draft}
    (here : feature.At place) (scenarios : feature.scenarios = scenario :: earlier)
    (isOutline : scenario.isOutline = true) : place.InOutline := by
  cases here with
  | header inHeader => exact absurd (scenarios.symm.trans (inHeader_iff.mp inHeader).2) (by simp)
  | body current =>
      cases current with
      | background none => exact absurd (scenarios.symm.trans none) (by simp)
      | scenario listed examples plain =>
          cases scenarios.symm.trans listed
          exact absurd (isOutline.symm.trans plain) (by simp)
      | outline => rfl
  | examples => trivial

/-- A background that was just opened. -/
theorem at_background_onLine (dialect : Dialect) (line : Line) {feature : Feature.Draft}
    (inHeader : feature.inHeader = true) :
    ({ feature with background := some (.onLine dialect line) } : Feature.Draft).At
      (.body .background .description) :=
  .body (@Current.background { feature with background := some (.onLine dialect line) } _
    (inHeader_iff.mp inHeader).2 rfl)

/-- A scenario or outline that was just opened. -/
theorem at_scenario_onLine (dialect : Dialect) (line : Line) (feature : Feature.Draft)
    (tags : List Tag) :
    ({ feature with scenarios := .onLine dialect tags line :: feature.scenarios } :
      Feature.Draft).At
        (.body (if dialect.role line = .scenarioOutline then .outline else .scenario) .description) := by
  by_cases outline : dialect.role line = .scenarioOutline
  · rw [if_pos outline]
    exact .body (@Current.outline
      { feature with scenarios := .onLine dialect tags line :: feature.scenarios } _ _ rfl rfl
      (decide_eq_true outline))
  · rw [if_neg outline]
    exact .body (@Current.scenario
      { feature with scenarios := .onLine dialect tags line :: feature.scenarios } _ _ rfl rfl
      (decide_eq_false outline))

/-- An examples block that was just opened. -/
theorem at_examples_onLine (dialect : Dialect) (line : Line) (feature : Feature.Draft)
    {scenario : Scenario.Draft} (earlier : List Scenario.Draft) (tags : List Tag)
    (isOutline : scenario.isOutline = true) (closed : scenario.inDocString = false) :
    ({ feature with
      scenarios := { scenario with
        examples := .onLine dialect tags line :: scenario.examples } :: earlier } :
      Feature.Draft).At (.examples none) :=
  .examples (@Latest.examples { feature with
    scenarios := { scenario with
      examples := .onLine dialect tags line :: scenario.examples } :: earlier } _ _ _ _ rfl isOutline
        closed rfl)

/-- A line that opens no construct makes a step of the place of the feature. -/
theorem At.step_of_takes (standard : dialect.separators = .standard)
    (routed : feature.inDocString = true ∨ (dialect.role line ≠ .comment ∧
      dialect.role line ≠ .tag ∧ (dialect.role line).takesColon = false))
    (here : feature.At place) (taken : Takes dialect line feature next []) :
    ∃ later, next.At later ∧ Place.Step dialect line place false later false := by
  cases here with
  | header inHeader =>
      have outside := inDocString_of_inHeader inHeader
      rcases inHeader_iff.mp inHeader with ⟨absent, none⟩
      cases taken with
      | scenario listed | examples listed => exact absurd (none.symm.trans listed) (by simp)
      | background _ present => exact absurd (absent.symm.trans present) (by simp)
      | description _ _ silent free =>
          simp only [Dialect.isArgument, Bool.or_eq_false_iff, decide_eq_false_iff_not] at free
          have plain := Dialect.plain_of_routed silent free.1 (routed.resolve_left (by simp [outside]))
          refine ⟨.header, .header inHeader, ?_⟩
          cases white : line.isBlank with
          | true => exact .trivial rfl (.inl (Dialect.kind_of_isBlank dialect white))
          | false => exact .text (by rw [Dialect.kind_of_plain plain, free.2, white]; rfl)
  | body current =>
      rw [current.inDocString_eq] at routed
      rcases current.takes_iff.mp taken with ⟨body, rfl, read⟩
      exact ⟨_, .body (current.after body), .body (read.phase_step standard routed)⟩
  | examples latest =>
      rcases latest.takes_iff.mp taken with ⟨block, rfl, read⟩
      exact ⟨_, .examples (latest.after block), Examples.Draft.step_of_add
        (routed.resolve_left (by simp [latest.inDocString_eq])) read⟩

theorem At.exists_takes_of_blank (standard : dialect.separators = .standard) (here : feature.At place)
    (unclosed : place.separator? = none) (kind : dialect.kind line = .blank) :
    ∃ next, Takes dialect line feature next [] ∧ next.At place := by
  rcases Dialect.shows_of_kind kind with ⟨plain, unmarked, -⟩
  cases here with
  | header inHeader =>
      rcases inHeader_iff.mp inHeader with ⟨absent, none⟩
      refine ⟨_, .description none absent ?_ ?_, .header inHeader⟩ <;>
        simp [plain, Role.isStep, Dialect.isArgument, unmarked]
  | body current =>
      rcases Body.Draft.exists_takes_of_step standard (.blank unclosed kind) with
        ⟨body, taken, same⟩
      rw [← same]
      exact ⟨_, current.takes_iff.mpr ⟨body, rfl, taken⟩, .body (current.after body)⟩
  | examples latest =>
      rcases Examples.Draft.exists_add_of_blank kind with ⟨block, added, same⟩
      rw [← same]
      exact ⟨_, latest.takes_iff.mpr ⟨block, rfl, added⟩, .examples (latest.after block)⟩

end Feature.Draft

namespace Document.Draft

/-- The place at which a document is, and whether tags are waiting.  None wait while a
doc-string is open. -/
inductive At (draft : Draft) : Place → Bool → Prop
  | opening (absent : draft.feature = none) : At draft .opening draft.pending.isSome
  | feature {feature : Feature.Draft} {place : Place} (present : draft.feature = some feature)
      (here : feature.At place) (free : place.separator? = none ∨ draft.pending = none) :
      At draft place draft.pending.isSome

variable {dialect : Dialect} {line : Line} {draft next : Draft} {place later : Place}
  {waiting waits : Bool}

theorem At.waiting_eq (here : draft.At place waiting) : waiting = draft.pending.isSome := by
  cases here <;> rfl

theorem At.unclaimed (here : draft.At place false) : draft.pending = none := by
  simpa using here.waiting_eq

theorem At.idle (here : draft.At place waiting) (unclaimed : draft.pending = none) :
    waiting = false := by
  simp [here.waiting_eq, unclaimed]

theorem At.inDocString_eq (here : draft.At place waiting) :
    draft.inDocString = place.separator?.isSome := by
  cases here with
  | opening absent => simp [inDocString, absent, Place.separator?]
  | feature present here => exact (inDocString_of_feature present).trans here.inDocString_eq

theorem At.outside_iff (here : draft.At place waiting) :
    draft.inDocString = false ↔ place.separator? = none := by
  rw [here.inDocString_eq, Option.isSome_eq_false_iff, Option.isNone_iff_eq_none]

/-- Outside doc-strings neither comments nor tags move a document. -/
theorem At.of_same_feature (here : draft.At place waiting) (outside : draft.inDocString = false)
    (same : next.feature = draft.feature) : next.At place next.pending.isSome := by
  have unclosed := here.outside_iff.mp outside
  cases here with
  | opening absent => exact .opening (same.trans absent)
  | feature present here => exact .feature (same.trans present) here (.inl unclosed)

theorem At.of_unclaimed {feature : Feature.Draft} (present : draft.feature = some feature)
    (unclaimed : draft.pending = none) (here : feature.At place) : draft.At place false := by
  have there := At.feature present here (.inr unclaimed)
  rwa [unclaimed] at there

theorem At.of_withFeature {feature : Feature.Draft} (here : feature.At place) :
    (draft.withFeature feature).At place false :=
  .of_unclaimed rfl rfl here

/-- Where a feature was begun, its place is that of the document. -/
theorem At.of_present {feature : Feature.Draft} (here : draft.At place waiting)
    (present : draft.feature = some feature) :
    feature.At place ∧ (place.separator? = none ∨ draft.pending = none) := by
  cases here with
  | opening absent => exact absurd (present.symm.trans absent) (by simp)
  | feature found here free =>
      cases present.symm.trans found
      exact ⟨here, free⟩

theorem At.ne_opening {feature : Feature.Draft} (here : draft.At place waiting)
    (present : draft.feature = some feature) : place ≠ .opening := by
  rintro rfl
  cases (here.of_present present).1

theorem At.exists_header (here : draft.At .header waiting) :
    ∃ feature, draft.feature = some feature ∧ feature.inHeader = true := by
  cases here with
  | feature present here =>
      cases here with
      | header inHeader => exact ⟨_, present, inHeader⟩

theorem At.exists_feature (here : draft.At place waiting) (begun : place ≠ .opening) :
    ∃ feature, draft.feature = some feature ∧ feature.At place := by
  cases here with
  | opening => exact absurd rfl begun
  | feature present here => exact ⟨_, present, here⟩

/-- The last scenario of a feature is in no doc-string where the document is in none. -/
private theorem inDocString_of_last {feature : Feature.Draft} {scenario : Scenario.Draft}
    {earlier : List Scenario.Draft} (outside : draft.inDocString = false)
    (present : draft.feature = some feature) (scenarios : feature.scenarios = scenario :: earlier) :
    scenario.inDocString = false := by
  rw [← outside, inDocString_of_feature present, Feature.Draft.inDocString_of_scenarios scenarios]

/-- What the feature takes up makes a step of the place of the document. -/
private theorem At.step_of_inner (standard : dialect.separators = .standard)
    (here : draft.At place waiting) {feature after : Feature.Draft}
    (present : draft.feature = some feature)
    (routed : draft.inDocString = true ∨ (draft.pending = none ∧ dialect.Routed line))
    (taken : Feature.Draft.Takes dialect line feature after []) :
    ∃ later, ({ draft with feature := some after } : Draft).At later false ∧
      Place.Step dialect line place waiting later false := by
  rcases here.of_present present with ⟨there, free⟩
  have unclaimed : draft.pending = none := by
    rcases routed with inside | plain
    · rw [here.inDocString_eq] at inside
      exact free.resolve_left fun unclosed => by simp [unclosed] at inside
    · exact plain.1
  rw [inDocString_of_feature present] at routed
  rcases there.step_of_takes standard (routed.imp_right And.right) taken with ⟨later, moved, step⟩
  cases here.idle unclaimed
  exact ⟨later, .of_unclaimed rfl unclaimed moved, step⟩

/-- A line that a document takes up without a fault makes a step of its place. -/
theorem At.step_of_takes (standard : dialect.separators = .standard) (here : draft.At place waiting)
    (taken : Takes dialect line draft next []) :
    ∃ later waits, next.At later waits ∧ Place.Step dialect line place waiting later waits := by
  generalize faultless : ([] : List Fault) = faults at taken
  cases taken with
  | comment outside role =>
      refine ⟨place, waiting, ?_, .trivial (here.outside_iff.mp outside)
        (.inr (by simp [Dialect.kind, role]))⟩
      rw [here.waiting_eq]
      exact here.of_same_feature outside rfl
  | tag outside role =>
      exact ⟨place, true, here.of_same_feature outside rfl, .tag (here.outside_iff.mp outside)
        (by simp [Dialect.kind, role]) faultless.symm⟩
  | blank outside white idle =>
      exact ⟨place, waiting, here, .trivial (here.outside_iff.mp outside)
        (.inl (Dialect.kind_of_isBlank dialect white))⟩
  | feature outside role absent =>
      have first : place = .opening := by
        cases here with
        | opening => rfl
        | feature present => exact absurd (present.symm.trans absent) (by simp)
      subst first
      exact ⟨_, _, .of_withFeature (.header rfl), .feature (by simp [Dialect.kind, role])⟩
  | background outside role present unclaimed inHeader =>
      rcases (here.of_present present).1.eq_header inHeader with rfl
      cases here.idle unclaimed
      exact ⟨_, _, .of_withFeature (Feature.Draft.at_background_onLine dialect line inHeader),
        .background (by simp [Dialect.kind, role])⟩
  | scenario outside role present =>
      refine ⟨_, _, .of_withFeature (Feature.Draft.at_scenario_onLine dialect line _ _), ?_⟩
      have unclosed := here.outside_iff.mp outside
      rcases role with role | role
      · rw [role]
        exact .scenario (here.ne_opening present) unclosed (by simp [Dialect.kind, role])
      · rw [role]
        exact .outline (here.ne_opening present) unclosed (by simp [Dialect.kind, role])
  | examples outside role present scenarios isOutline =>
      have closed := inDocString_of_last outside present scenarios
      exact ⟨_, _, .of_withFeature
        (Feature.Draft.at_examples_onLine dialect line _ _ _ isOutline closed),
        .examples ((here.of_present present).1.inOutline scenarios isOutline)
          (here.outside_iff.mp outside) (by simp [Dialect.kind, role])⟩
  | inner present routed taken =>
      rw [← faultless] at taken
      rcases here.step_of_inner standard present routed taken with ⟨later, there, step⟩
      exact ⟨later, false, there, step⟩

/-- Blank lines are taken up everywhere, and move nothing. -/
private theorem At.exists_takes_of_blank (standard : dialect.separators = .standard)
    (here : draft.At place waiting) (unclosed : place.separator? = none)
    (kind : dialect.kind line = .blank) :
    ∃ next, Takes dialect line draft next [] ∧ next.At place waiting := by
  have outside := here.outside_iff.mpr unclosed
  have routed := Dialect.routed_of_kind (.inl kind)
  rcases Dialect.shows_of_kind kind with ⟨plain, unmarked, white⟩
  cases pending : draft.pending with
  | some tags => exact ⟨draft, .blank outside white (.inl (by simp [pending])), here⟩
  | none =>
      cases place with
      | opening =>
          cases here with
          | opening absent => exact ⟨draft, .blank outside white (.inr absent), .opening absent⟩
          | feature present there => cases there
      | _ =>
          cases here.idle pending
          rcases here.exists_feature (by simp) with ⟨feature, present, there⟩
          rcases there.exists_takes_of_blank standard unclosed kind with ⟨next, taken, moved⟩
          exact ⟨_, .inner present (.inr ⟨pending, routed⟩) taken, .of_unclaimed rfl pending moved⟩

/-- What the last examples block takes up, the document does. -/
private theorem At.exists_takes_of_examples {before after : Option Nat}
    (here : draft.At (.examples before) false)
    (kind : dialect.kind line = .blank ∨ dialect.kind line = .text ∨ dialect.kind line = .step ∨
      dialect.kind line = .row ∨ dialect.kind line = .separator)
    (addable : ∀ block : Examples.Draft, block.columns = before →
      ∃ next, block.add dialect line = .ok (next, []) ∧ next.columns = after) :
    ∃ next, Takes dialect line draft next [] ∧ next.At (.examples after) false := by
  have unclaimed := here.unclaimed
  rcases here.exists_feature (by simp) with ⟨feature, present, there⟩
  generalize same : Place.examples before = place at there
  cases there with
  | header | body => cases same
  | examples latest =>
      cases same
      rcases addable _ rfl with ⟨block, added, rfl⟩
      exact ⟨_, .inner present (.inr ⟨unclaimed, Dialect.routed_of_kind kind⟩)
        (latest.takes_iff.mpr ⟨block, rfl, added⟩),
        .of_unclaimed rfl unclaimed (.examples (latest.after block))⟩

/-- A line of the description of a feature is taken up in its header. -/
private theorem At.exists_takes_of_text (here : draft.At .header false)
    (kind : dialect.kind line = .text) :
    ∃ next, Takes dialect line draft next [] ∧ next.At .header false := by
  have unclaimed := here.unclaimed
  rcases Dialect.shows_of_kind kind with ⟨plain, unmarked, -⟩
  rcases here.exists_header with ⟨feature, present, inHeader⟩
  rcases Feature.Draft.inHeader_iff.mp inHeader with ⟨absent, unopened⟩
  have free : dialect.isArgument line = false := by simp [Dialect.isArgument, plain, unmarked]
  exact ⟨_, .inner present (.inr ⟨unclaimed, Dialect.routed_of_plain plain⟩)
    (.description unopened absent (by rw [plain]; rfl) free),
    .of_unclaimed rfl unclaimed (.header inHeader)⟩

/-- Behind a feature line, a scenario or outline can be opened outside doc-strings. -/
private theorem At.exists_takes_of_scenario (here : draft.At place waiting) (begun : place ≠ .opening)
    (unclosed : place.separator? = none)
    (role : dialect.role line = .scenario ∨ dialect.role line = .scenarioOutline) :
    ∃ next, Takes dialect line draft next [] ∧ next.At
      (.body (if dialect.role line = .scenarioOutline then .outline else .scenario) .description)
        false := by
  rcases here.exists_feature begun with ⟨feature, present, -⟩
  exact ⟨_, .scenario (here.outside_iff.mpr unclosed) role present,
    .of_withFeature (Feature.Draft.at_scenario_onLine dialect line feature draft.pending.tags)⟩

/-- Behind an outline, an examples block can be opened outside doc-strings. -/
private theorem At.exists_takes_of_heading (here : draft.At place waiting)
    (inOutline : place.InOutline) (unclosed : place.separator? = none)
    (kind : dialect.kind line = .examples) :
    ∃ next, Takes dialect line draft next [] ∧ next.At (.examples none) false := by
  have outside := here.outside_iff.mpr unclosed
  rcases here.exists_feature (by rintro rfl; exact inOutline) with ⟨feature, present, there⟩
  rcases there.exists_outline inOutline with ⟨scenario, earlier, scenarios, isOutline⟩
  have closed := inDocString_of_last outside present scenarios
  exact ⟨_, .examples outside (Dialect.shows_of_kind kind) present scenarios isOutline,
    .of_withFeature (Feature.Draft.at_examples_onLine dialect line _ _ _ isOutline closed)⟩

/-- What the current body takes up, the document does. -/
private theorem At.exists_takes_of_body (standard : dialect.separators = .standard)
    {owner : Body.Owner} {phase after : Body.Phase} (here : draft.At (.body owner phase) false)
    (step : Body.Phase.Step dialect line phase after) :
    ∃ next, Takes dialect line draft next [] ∧ next.At (.body owner after) false := by
  have unclaimed := here.unclaimed
  have routed : draft.inDocString = true ∨ (draft.pending = none ∧ _) :=
    step.routed.imp (fun inside => here.inDocString_eq.trans inside) (⟨unclaimed, ·⟩)
  rcases here.exists_feature (by simp) with ⟨feature, present, there⟩
  cases there with
  | body current =>
      rcases Body.Draft.exists_takes_of_step standard step with ⟨body, taken, same⟩
      rw [← same]
      exact ⟨_, .inner present routed (current.takes_iff.mpr ⟨body, rfl, taken⟩),
        .of_unclaimed rfl unclaimed (.body (current.after body))⟩

/-- Every step of the place of a document is one that the document can make. -/
theorem At.exists_takes_of_step (standard : dialect.separators = .standard)
    (here : draft.At place waiting) (step : Place.Step dialect line place waiting later waits) :
    ∃ next, Takes dialect line draft next [] ∧ next.At later waits := by
  cases step with
  | trivial unclosed kind =>
      have outside := here.outside_iff.mpr unclosed
      rcases kind with blank | comment
      · exact here.exists_takes_of_blank standard unclosed blank
      · refine ⟨_, .comment outside (Dialect.shows_of_kind comment), ?_⟩
        rw [here.waiting_eq]
        exact here.of_same_feature outside rfl
  | tag unclosed kind faultless =>
      have outside := here.outside_iff.mpr unclosed
      have taken := Takes.tag outside (Dialect.shows_of_kind kind)
      rw [faultless] at taken
      exact ⟨_, taken, here.of_same_feature outside rfl⟩
  | feature kind =>
      cases here with
      | opening absent =>
          exact ⟨_, .feature (by simp [inDocString, absent]) (Dialect.shows_of_kind kind) absent,
            .of_withFeature (.header rfl)⟩
      | feature present here => cases here
  | text kind => exact here.exists_takes_of_text kind
  | background kind =>
      rcases here.exists_header with ⟨feature, present, inHeader⟩
      exact ⟨_, .background (here.outside_iff.mpr rfl) (Dialect.shows_of_kind kind) present
        here.unclaimed inHeader,
        .of_withFeature (Feature.Draft.at_background_onLine dialect line inHeader)⟩
  | scenario begun unclosed kind =>
      have role : dialect.role line = .scenario := Dialect.shows_of_kind kind
      have opened := here.exists_takes_of_scenario begun unclosed (.inl role)
      rwa [role] at opened
  | outline begun unclosed kind =>
      have role : dialect.role line = .scenarioOutline := Dialect.shows_of_kind kind
      have opened := here.exists_takes_of_scenario begun unclosed (.inr role)
      rwa [role] at opened
  | examples inOutline unclosed kind => exact here.exists_takes_of_heading inOutline unclosed kind
  | body step => exact here.exists_takes_of_body standard step
  | note kind =>
      exact here.exists_takes_of_examples (by rcases kind with kind | kind <;> simp [kind])
        fun block columns => Examples.Draft.exists_add_of_note columns kind
  | firstRow kind =>
      exact here.exists_takes_of_examples (by simp [kind])
        fun block columns => Examples.Draft.exists_add_of_row kind (by simp [columns])
  | row kind =>
      exact here.exists_takes_of_examples (by simp [kind])
        fun block columns => Examples.Draft.exists_add_of_row kind (by simp [columns])

end Document.Draft
end Gherkin
