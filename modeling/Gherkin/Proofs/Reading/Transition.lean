import Gherkin.Proofs.Reading.Rules
import Gherkin.Proofs.Classification
import Mathlib.Tactic.SplitIfs

namespace Gherkin

/-!
# What a line does

Reading is spread over nested constructs, each of which decides on a line or
hands it on.  The relations below flatten this: each constructor is one way for
a line to be taken up, with everything that has to hold for it.  A line that is
in none of these relations is refused.  The equivalences with `add` and `place`
hold for every dialect, custom separators included, so later modules argue by
cases on the relations and do not open the readers again.
-/

namespace Reading

variable {α β : Type}

@[simp] theorem within_ok (enclose : α → β) (result : α × List Fault) :
    within enclose (.ok result) = .ok (enclose result.1, result.2) :=
  rfl

@[simp] theorem within_error (enclose : α → β) (expected : List Text) :
    within enclose (.error expected) = .error expected :=
  rfl

theorem within_eq_ok_iff {enclose : α → β} {reading : Reading α} {value : β}
    {faults : List Fault} :
    reading.within enclose = .ok (value, faults) ↔
      ∃ inner, reading = .ok (inner, faults) ∧ value = enclose inner := by
  cases reading with
  | error expected => simp
  | ok result =>
      rcases result with ⟨inner, found⟩
      simp only [within_ok, Except.ok.injEq, Prod.mk.injEq]
      constructor
      · rintro ⟨same, rfl⟩
        exact ⟨inner, ⟨rfl, rfl⟩, same.symm⟩
      · rintro ⟨other, ⟨rfl, rfl⟩, same⟩
        exact ⟨same.symm, rfl⟩

/-- A settled line leaves no fault exactly if it was taken up without one. -/
theorem settle_eq_nil_iff {previous value : α} {line : Line} {reading : Reading α} :
    reading.settle previous line = (value, []) ↔ reading = .ok (value, []) := by
  cases reading <;> simp [settle]

end Reading

namespace DocString.Draft

@[simp] theorem add_opening (docString : Draft) (line : Line) :
    (docString.add line).opening = docString.opening := by
  unfold add
  split_ifs <;> rfl

end DocString.Draft

namespace Step.Draft

variable {dialect : Dialect} {line : Line}

theorem onLine?_of_role {kind : StepKind} (role : dialect.role line = .step kind) :
    onLine? dialect line =
      some ⟨kind, (line.classify dialect.language).keyword,
        line.textAfter (line.classify dialect.language), line.location, none, none⟩ := by
  have own : (line.classify dialect.language).role = .step kind := role
  simp only [onLine?, own]

theorem onLine?_eq_none_iff : onLine? dialect line = none ↔ (dialect.role line).isStep = false := by
  cases role : dialect.role line with
  | step kind => simp [onLine?_of_role role, Role.isStep]
  | _ =>
      have own : (line.classify dialect.language).role = _ := role
      simp only [onLine?, own, Role.isStep]

theorem exists_role_of_onLine? {start : Draft} (starts : onLine? dialect line = some start) :
    dialect.role line = .step start.kind := by
  cases role : dialect.role line with
  | step kind =>
      rw [onLine?_of_role role, Option.some.injEq] at starts
      rw [← starts]
  | _ =>
      rw [onLine?_eq_none_iff.mpr (by rw [role]; rfl)] at starts
      cases starts

theorem free_of_onLine? {start : Draft} (starts : onLine? dialect line = some start) :
    start.docString = none := by
  rw [onLine?_of_role (exists_role_of_onLine? starts), Option.some.injEq] at starts
  rw [← starts]

/-- A step whose doc-string was closed takes up no further line. -/
theorem free_of_accepts {step : Draft} (outside : step.inDocString = false)
    (accepted : step.accepts dialect line = true) : step.docString = none := by
  refine Option.eq_none_iff_forall_ne_some.mpr fun docString begun => ?_
  rw [inDocString, DocString.inProgress, begun, Option.any_some] at outside
  rw [accepts, begun] at accepted
  exact absurd accepted (Bool.eq_false_iff.mp outside)

theorem inDocString_of_open {step : Draft} {docString : DocString.Draft}
    (unfinished : step.docString = some docString) (isOpen : docString.isOpen = true) :
    step.inDocString = true := by
  simp [inDocString, DocString.inProgress, unfinished, isOpen]

theorem inDocString_of_free {step : Draft} (free : step.docString = none) :
    step.inDocString = false := by
  simp [inDocString, DocString.inProgress, free]

theorem accepts_of_inDocString {step : Draft} (inside : step.inDocString = true) :
    step.accepts dialect line = true := by
  rcases (Option.any_eq_true _ _).mp inside with ⟨docString, unfinished, isOpen⟩
  simpa [accepts, unfinished] using isOpen

theorem accepts_of_isBlank {step : Draft} (outside : step.inDocString = false)
    (white : line.isBlank = true) : step.accepts dialect line = false := by
  cases started : step.docString with
  | some docString => simpa [accepts, inDocString, DocString.inProgress, started] using outside
  | none => simp [accepts, started, Dialect.role_of_isBlank dialect white,
      Dialect.isSeparator_of_isBlank white]

end Step.Draft

namespace Body.Draft

/-- What a line does in the body of a background or scenario. -/
inductive Takes (dialect : Dialect) (line : Line) (body : Body.Draft) :
    Body.Draft → List Fault → Prop
  | content {step : Step.Draft} {earlier : Step.Sequence} {docString : DocString.Draft}
      (steps : body.steps = step :: earlier) (unfinished : step.docString = some docString)
      (isOpen : docString.isOpen = true) :
      Takes dialect line body
        { body with steps := { step with docString := some (docString.add line) } :: earlier } []
  | step {start : Step.Draft} (outside : body.inDocString = false)
      (starts : Step.Draft.onLine? dialect line = some start) :
      Takes dialect line body { body with steps := start :: body.steps } []
  | row {step : Step.Draft} {earlier : Step.Sequence} (steps : body.steps = step :: earlier)
      (free : step.docString = none) (role : dialect.role line = .tableRow)
      (unmarked : dialect.isSeparator line = false) :
      Takes dialect line body
        { body with steps := { step with table := some (Table.Draft.add step.table line).1 } :: earlier }
        (Table.Draft.add step.table line).2
  | opening {step : Step.Draft} {earlier : Step.Sequence} {opening : DocString.Opening}
      (steps : body.steps = step :: earlier) (free : step.docString = none)
      (silent : (dialect.role line).isStep = false)
      (admitted : dialect.role line = .tableRow ∨ step.table = none)
      (opens : DocString.Opening.onLine? dialect.separators line = some opening) :
      Takes dialect line body
        { body with steps := { step with docString := some ⟨opening, [], true⟩ } :: earlier } []
  | blank {step : Step.Draft} {earlier : Step.Sequence} (steps : body.steps = step :: earlier)
      (outside : body.inDocString = false) (white : line.isBlank = true) :
      Takes dialect line body body []
  | description (steps : body.steps = []) (silent : (dialect.role line).isStep = false)
      (free : dialect.isArgument line = false) :
      Takes dialect line body { body with description := body.description.add line } []

variable {dialect : Dialect} {line : Line} {body next : Body.Draft} {faults : List Fault}

theorem inDocString_cons {description : Description.Draft} {step : Step.Draft}
    {earlier : Step.Sequence} :
    (⟨description, step :: earlier⟩ : Body.Draft).inDocString = step.inDocString := by
  simp [inDocString, Step.Sequence.inDocString]

theorem inDocString_of_steps {step : Step.Draft} {earlier : Step.Sequence}
    (steps : body.steps = step :: earlier) : body.inDocString = step.inDocString := by
  simp [inDocString, Step.Sequence.inDocString, steps]

theorem inDocString_of_steps_nil (steps : body.steps = []) : body.inDocString = false := by
  simp [inDocString, Step.Sequence.inDocString, steps]

theorem isSeparator_eq_true_iff :
    dialect.isSeparator line = true ↔
      ∃ opening, DocString.Opening.onLine? dialect.separators line = some opening := by
  simp [Dialect.isSeparator, DocString.Opening.onLine?, Option.isSome_iff_exists]

/-- With the standard separators no table row can be the opening line of a doc-string. -/
theorem unbarred_of_opens (standard : dialect.separators = .standard) {opening : DocString.Opening}
    (opens : DocString.Opening.onLine? dialect.separators line = some opening) :
    dialect.role line ≠ .tableRow := by
  intro role
  have unmarked := Dialect.isSeparator_of_role standard role
  rw [isSeparator_eq_true_iff.mpr ⟨opening, opens⟩] at unmarked
  cases unmarked

theorem extend_none {opening : DocString.Opening}
    (opens : DocString.Opening.onLine? dialect.separators line = some opening) :
    DocString.Draft.extend dialect.separators none line = some ⟨opening, [], true⟩ := by
  simp [DocString.Draft.extend, opens]

/-- What the last step takes up is a line of its doc-string, the separator that opens one or
a table row. -/
private theorem takes_of_accepts {step : Step.Draft} {earlier : Step.Sequence}
    (steps : body.steps = step :: earlier)
    (silent : step.inDocString = true ∨ (dialect.role line).isStep = false)
    (accepted : step.accepts dialect line = true) :
    Takes dialect line body { body with steps := (step.add dialect line).1 :: earlier }
      (step.add dialect line).2 := by
  cases started : step.docString with
  | some docString =>
      have isOpen : docString.isOpen = true := by simpa [Step.Draft.accepts, started] using accepted
      have inside := Step.Draft.inDocString_of_open started isOpen
      simp only [Step.Draft.add, inside, Bool.true_or, if_true, started, DocString.Draft.extend]
      exact .content steps started isOpen
  | none =>
      have outside := Step.Draft.inDocString_of_free started
      have silent : (dialect.role line).isStep = false := silent.resolve_left (by simp [outside])
      simp only [Step.Draft.accepts, started, Bool.or_eq_true, Bool.and_eq_true,
        decide_eq_true_eq, Option.isNone_iff_eq_none] at accepted
      cases marked : dialect.isSeparator line with
      | true =>
          rcases isSeparator_eq_true_iff.mp marked with ⟨opening, opens⟩
          simp only [Step.Draft.add, outside, marked, Bool.or_true, if_true, started,
            extend_none opens]
          exact .opening steps started silent (accepted.imp_right And.left) opens
      | false =>
          have role : dialect.role line = .tableRow := accepted.resolve_right (by simp [marked])
          simp only [Step.Draft.add, outside, marked, Bool.or_false, Bool.false_eq_true, if_false]
          exact .row steps started role marked

/-- A line that starts no step, offered to the last one. -/
private theorem takes_of_continue? {step : Step.Draft} {earlier : Step.Sequence}
    (steps : body.steps = step :: earlier)
    (silent : step.inDocString = true ∨ (dialect.role line).isStep = false)
    (taken : body.continue? dialect line = some (next, faults)) :
    Takes dialect line body next faults := by
  rcases Option.map_eq_some_iff.mp taken with ⟨result, read, same⟩
  rcases Prod.mk.inj same with ⟨rfl, rfl⟩
  simp only [steps, Step.Sequence.continue?] at read
  split_ifs at read with accepted white
  · cases read
    exact takes_of_accepts steps silent accepted
  · cases read
    rw [← steps]
    have outside : step.inDocString = false :=
      Bool.eq_false_iff.mpr fun inside => accepted (Step.Draft.accepts_of_inDocString inside)
    exact .blank steps ((inDocString_of_steps steps).trans outside) white

private theorem takes_of_add (taken : body.add dialect line = some (next, faults)) :
    Takes dialect line body next faults := by
  cases inside : body.inDocString with
  | true =>
      rw [add, inside, if_pos rfl] at taken
      cases steps : body.steps with
      | nil => exact absurd (inDocString_of_steps_nil steps) (by simp [inside])
      | cons step earlier =>
          exact takes_of_continue? steps (.inl ((inDocString_of_steps steps).symm.trans inside)) taken
  | false =>
      simp only [add, inside, Bool.false_eq_true, if_false, Step.Sequence.start?] at taken
      cases starts : Step.Draft.onLine? dialect line with
      | some start =>
          simp only [starts, Option.map_some, Option.some.injEq, Prod.mk.injEq] at taken
          rcases taken with ⟨rfl, rfl⟩
          exact .step inside starts
      | none =>
          have silent := Step.Draft.onLine?_eq_none_iff.mp starts
          cases steps : body.steps with
          | nil =>
              simp [starts, steps] at taken
              rcases taken with ⟨free, rfl, rfl⟩
              rw [← steps]
              exact .description steps silent free
          | cons step earlier =>
              simp [starts, steps] at taken
              exact takes_of_continue? steps (.inr silent) taken

private theorem add_of_takes (taken : Takes dialect line body next faults) :
    body.add dialect line = some (next, faults) := by
  cases taken with
  | content steps unfinished isOpen =>
      simp [add, inDocString, Step.Sequence.inDocString, continue?, Step.Sequence.continue?, steps,
        Step.Draft.accepts, Step.Draft.add, Step.Draft.inDocString, DocString.inProgress, unfinished,
        isOpen, DocString.Draft.extend]
  | step outside starts => simp [add, outside, Step.Sequence.start?, starts]
  | row steps free role unmarked =>
      have silent : Step.Draft.onLine? dialect line = none :=
        Step.Draft.onLine?_eq_none_iff.mpr (by rw [role]; rfl)
      simp [add, inDocString, Step.Sequence.inDocString, Step.Sequence.start?, silent, continue?,
        Step.Sequence.continue?, steps, Step.Draft.accepts, Step.Draft.add, Step.Draft.inDocString,
        DocString.inProgress, free, role, unmarked]
  | opening steps free silent admitted opens =>
      have silent : Step.Draft.onLine? dialect line = none := Step.Draft.onLine?_eq_none_iff.mpr silent
      have marked : dialect.isSeparator line = true := isSeparator_eq_true_iff.mpr ⟨_, opens⟩
      simp [add, inDocString, Step.Sequence.inDocString, Step.Sequence.start?, silent, continue?,
        Step.Sequence.continue?, steps, Step.Draft.accepts, Step.Draft.add, Step.Draft.inDocString,
        DocString.inProgress, free, marked, admitted, extend_none opens]
  | @blank step earlier steps outside white =>
      have silent : Step.Draft.onLine? dialect line = none :=
        Step.Draft.onLine?_eq_none_iff.mpr (by rw [Dialect.role_of_isBlank dialect white]; rfl)
      rcases body with ⟨description, sequence⟩
      cases steps
      have refused : step.accepts dialect line = false :=
        Step.Draft.accepts_of_isBlank (inDocString_cons.symm.trans outside) white
      simp [add, outside, Step.Sequence.start?, silent, continue?, Step.Sequence.continue?, refused,
        white]
  | description steps silent free =>
      have silent : Step.Draft.onLine? dialect line = none := Step.Draft.onLine?_eq_none_iff.mpr silent
      simp [add, inDocString, Step.Sequence.inDocString, Step.Sequence.start?, silent, steps, free]

/-- A line is taken up in a body in one of the listed ways or not at all. -/
theorem add_eq_some_iff :
    body.add dialect line = some (next, faults) ↔ Takes dialect line body next faults :=
  ⟨takes_of_add, add_of_takes⟩

end Body.Draft

namespace Background.Draft

@[simp] theorem inDocString_onLine (dialect : Dialect) (line : Line) :
    (onLine dialect line).inDocString = false :=
  rfl

end Background.Draft

namespace Scenario.Draft

@[simp] theorem inDocString_onLine (dialect : Dialect) (tags : List Tag) (line : Line) :
    (onLine dialect tags line).inDocString = false :=
  rfl

end Scenario.Draft

namespace Feature.Draft

/-- What a line that opens no construct does in a feature: it belongs to the last
scenario or to its last examples block, to the background, or to the description. -/
inductive Takes (dialect : Dialect) (line : Line) (feature : Feature.Draft) :
    Feature.Draft → List Fault → Prop
  | scenario {scenario : Scenario.Draft} {earlier : List Scenario.Draft} {body : Body.Draft}
      {faults : List Fault} (scenarios : feature.scenarios = scenario :: earlier)
      (inBody : scenario.inDocString = true ∨ scenario.examples = [])
      (taken : Body.Draft.Takes dialect line scenario.body body faults) :
      Takes dialect line feature
        { feature with scenarios := { scenario with body := body } :: earlier } faults
  | examples {scenario : Scenario.Draft} {earlier : List Scenario.Draft}
      {block next : Examples.Draft} {blocks : List Examples.Draft} {faults : List Fault}
      (scenarios : feature.scenarios = scenario :: earlier) (outside : scenario.inDocString = false)
      (examples : scenario.examples = block :: blocks)
      (taken : block.add dialect line = .ok (next, faults)) :
      Takes dialect line feature
        { feature with scenarios := { scenario with examples := next :: blocks } :: earlier } faults
  | background {background : Background.Draft} {body : Body.Draft} {faults : List Fault}
      (scenarios : feature.scenarios = []) (present : feature.background = some background)
      (taken : Body.Draft.Takes dialect line background.body body faults) :
      Takes dialect line feature
        { feature with background := some { background with body := body } } faults
  | description (scenarios : feature.scenarios = []) (absent : feature.background = none)
      (silent : (dialect.role line).isStep = false) (free : dialect.isArgument line = false) :
      Takes dialect line feature { feature with description := feature.description.add line } []

variable {dialect : Dialect} {line : Line} {feature next : Feature.Draft} {faults : List Fault}

@[simp] theorem inDocString_onLine (tags : List Tag) :
    (onLine dialect tags line).inDocString = false :=
  rfl

theorem inDocString_of_scenarios {scenario : Scenario.Draft} {earlier : List Scenario.Draft}
    (scenarios : feature.scenarios = scenario :: earlier) :
    feature.inDocString = scenario.inDocString := by
  simp [inDocString, scenarios]

theorem inDocString_of_background {background : Background.Draft} (scenarios : feature.scenarios = [])
    (present : feature.background = some background) :
    feature.inDocString = background.inDocString := by
  simp [inDocString, scenarios, present]

theorem inHeader_iff : feature.inHeader = true ↔ feature.background = none ∧ feature.scenarios = [] := by
  simp [inHeader]

theorem inDocString_of_inHeader (inHeader : feature.inHeader = true) : feature.inDocString = false := by
  rw [inHeader_iff] at inHeader
  simp [inDocString, inHeader]

private theorem scenario_add_eq_ok_iff {scenario later : Scenario.Draft}
    (inBody : scenario.inDocString = true ∨ scenario.examples = []) :
    scenario.add dialect line = .ok (later, faults) ↔
      ∃ body, scenario.body.add dialect line = some (body, faults) ∧
        later = { scenario with body := body } := by
  have opened : scenario.add dialect line = .ok (later, faults) ↔
      ∃ result, scenario.body.add dialect line = some result ∧
        ({ scenario with body := result.1 }, result.2) = (later, faults) := by
    cases inside : scenario.inDocString with
    | true => cases read : scenario.body.add dialect line <;> simp [Scenario.Draft.add, inside, read]
    | false =>
        have examples : scenario.examples = [] := inBody.resolve_left (by simp [inside])
        cases read : scenario.body.add dialect line <;>
          simp [Scenario.Draft.add, inside, examples, read]
  rw [opened]
  constructor
  · rintro ⟨⟨body, found⟩, read, same⟩
    cases same
    exact ⟨body, read, rfl⟩
  · rintro ⟨body, read, rfl⟩
    exact ⟨(body, faults), read, rfl⟩

private theorem takes_of_scenario {scenario : Scenario.Draft} {earlier : List Scenario.Draft}
    (scenarios : feature.scenarios = scenario :: earlier) {later : Scenario.Draft}
    (taken : scenario.add dialect line = .ok (later, faults)) :
    Takes dialect line feature { feature with scenarios := later :: earlier } faults := by
  by_cases inBody : scenario.inDocString = true ∨ scenario.examples = []
  · rcases (scenario_add_eq_ok_iff inBody).mp taken with ⟨body, read, rfl⟩
    exact .scenario scenarios inBody (Body.Draft.add_eq_some_iff.mp read)
  · simp only [not_or, Bool.not_eq_true] at inBody
    rcases List.exists_cons_of_ne_nil inBody.2 with ⟨block, blocks, examples⟩
    simp only [Scenario.Draft.add, inBody.1, examples] at taken
    rcases Reading.within_eq_ok_iff.mp taken with ⟨last, read, rfl⟩
    exact .examples scenarios inBody.1 examples read

private theorem takes_of_background {background : Background.Draft} (scenarios : feature.scenarios = [])
    (present : feature.background = some background) {later : Background.Draft}
    (taken : background.add dialect line = .ok (later, faults)) :
    Takes dialect line feature { feature with background := some later } faults := by
  cases read : background.body.add dialect line with
  | none => simp [Background.Draft.add, read] at taken
  | some result =>
      simp only [Background.Draft.add, read, Except.ok.injEq, Prod.mk.injEq] at taken
      rcases taken with ⟨rfl, rfl⟩
      exact .background scenarios present (Body.Draft.add_eq_some_iff.mp read)

private theorem takes_of_add (taken : feature.add dialect line = .ok (next, faults)) :
    Takes dialect line feature next faults := by
  cases scenarios : feature.scenarios with
  | cons scenario earlier =>
      simp only [add, scenarios] at taken
      rcases Reading.within_eq_ok_iff.mp taken with ⟨later, read, rfl⟩
      exact takes_of_scenario scenarios read
  | nil =>
      cases present : feature.background with
      | some background =>
          simp only [add, scenarios, present] at taken
          rcases Reading.within_eq_ok_iff.mp taken with ⟨later, read, rfl⟩
          rw [← scenarios]
          exact takes_of_background scenarios present read
      | none =>
          simp only [add, scenarios, present, Bool.or_eq_true] at taken
          split_ifs at taken with refused
          cases taken
          simp only [not_or, Bool.not_eq_true] at refused
          rw [← scenarios, ← present]
          exact .description scenarios present refused.1 refused.2

private theorem add_of_takes (taken : Takes dialect line feature next faults) :
    feature.add dialect line = .ok (next, faults) := by
  cases taken with
  | scenario scenarios inBody taken =>
      simp [add, scenarios, (scenario_add_eq_ok_iff inBody).mpr
        ⟨_, Body.Draft.add_eq_some_iff.mpr taken, rfl⟩]
  | examples scenarios outside examples taken =>
      simp [add, scenarios, Scenario.Draft.add, outside, examples, taken]
  | background scenarios present taken =>
      simp [add, scenarios, present, Background.Draft.add, Body.Draft.add_eq_some_iff.mpr taken]
  | description scenarios absent silent free => simp [add, scenarios, absent, silent, free]

/-- A line that opens no construct is taken up in a feature in one of the listed ways or
not at all. -/
theorem add_eq_ok_iff :
    feature.add dialect line = .ok (next, faults) ↔ Takes dialect line feature next faults :=
  ⟨takes_of_add, add_of_takes⟩

end Feature.Draft

namespace Document.Draft

/-- What a line that is no language directive does in a document. -/
inductive Takes (dialect : Dialect) (line : Line) (draft : Draft) : Draft → List Fault → Prop
  | comment (outside : draft.inDocString = false) (role : dialect.role line = .comment) :
      Takes dialect line draft { draft with comments := Comment.onLine line :: draft.comments } []
  | tag (outside : draft.inDocString = false) (role : dialect.role line = .tag) :
      Takes dialect line draft
        { draft with pending := some (draft.pending.tags ++ Tag.onLine line) } (Tag.faultsOnLine line)
  | blank (outside : draft.inDocString = false) (white : line.isBlank = true)
      (idle : draft.pending.isSome = true ∨ draft.feature = none) :
      Takes dialect line draft draft []
  | feature (outside : draft.inDocString = false) (role : dialect.role line = .feature)
      (absent : draft.feature = none) :
      Takes dialect line draft (draft.withFeature (.onLine dialect draft.pending.tags line)) []
  | background {feature : Feature.Draft} (outside : draft.inDocString = false)
      (role : dialect.role line = .background) (present : draft.feature = some feature)
      (unclaimed : draft.pending = none) (inHeader : feature.inHeader = true) :
      Takes dialect line draft
        (draft.withFeature { feature with background := some (.onLine dialect line) }) []
  | scenario {feature : Feature.Draft} (outside : draft.inDocString = false)
      (role : dialect.role line = .scenario ∨ dialect.role line = .scenarioOutline)
      (present : draft.feature = some feature) :
      Takes dialect line draft
        (draft.withFeature { feature with
          scenarios := .onLine dialect draft.pending.tags line :: feature.scenarios }) []
  | examples {feature : Feature.Draft} {scenario : Scenario.Draft} {earlier : List Scenario.Draft}
      (outside : draft.inDocString = false) (role : dialect.role line = .examples)
      (present : draft.feature = some feature) (scenarios : feature.scenarios = scenario :: earlier)
      (isOutline : scenario.isOutline = true) :
      Takes dialect line draft
        (draft.withFeature { feature with
          scenarios := { scenario with
            examples := .onLine dialect draft.pending.tags line :: scenario.examples } :: earlier }) []
  | inner {feature next : Feature.Draft} {faults : List Fault}
      (present : draft.feature = some feature)
      (routed : draft.inDocString = true ∨
        (draft.pending = none ∧ dialect.role line ≠ .comment ∧ dialect.role line ≠ .tag ∧
          (dialect.role line).takesColon = false))
      (taken : Feature.Draft.Takes dialect line feature next faults) :
      Takes dialect line draft { draft with feature := some next } faults

variable {dialect : Dialect} {line : Line} {draft next : Draft} {faults : List Fault}

theorem inDocString_of_feature {feature : Feature.Draft} (present : draft.feature = some feature) :
    draft.inDocString = feature.inDocString := by
  simp [inDocString, present]

@[simp] theorem withFeature_feature (feature : Feature.Draft) :
    (draft.withFeature feature).feature = some feature :=
  rfl

@[simp] theorem inDocString_withFeature (feature : Feature.Draft) :
    (draft.withFeature feature).inDocString = feature.inDocString :=
  rfl

private theorem takes_of_openConstruct (outside : draft.inDocString = false)
    (admitted : draft.pending = none ∨ (dialect.role line).takesTags = true)
    (taken : draft.openConstruct dialect line = .ok (next, faults)) :
    Takes dialect line draft next faults := by
  unfold openConstruct at taken
  split at taken
  case h_1 role absent =>
    cases taken
    exact .feature outside role absent
  case h_2 feature role present =>
    rcases Reading.within_eq_ok_iff.mp taken with ⟨inner, read, rfl⟩
    rw [Feature.Draft.addBackground] at read
    split_ifs at read with inHeader
    cases read
    exact .background outside role present (admitted.resolve_right (by simp [role, Role.takesTags]))
      inHeader
  case h_3 feature role present =>
    cases taken
    exact .scenario outside (.inl role) present
  case h_4 feature role present =>
    cases taken
    exact .scenario outside (.inr role) present
  case h_5 feature role present =>
    rcases Reading.within_eq_ok_iff.mp taken with ⟨inner, read, rfl⟩
    unfold Feature.Draft.addExamples at read
    split at read
    case h_1 scenario earlier scenarios =>
      rcases Reading.within_eq_ok_iff.mp read with ⟨last, result, rfl⟩
      rw [Scenario.Draft.addExamples] at result
      split_ifs at result with isOutline
      cases result
      exact .examples outside role present scenarios isOutline
    case h_2 => cases read
  case h_6 => cases taken

private theorem takes_of_addToFeature
    (routed : draft.inDocString = true ∨
      (draft.pending = none ∧ dialect.role line ≠ .comment ∧ dialect.role line ≠ .tag ∧
        (dialect.role line).takesColon = false))
    (taken : draft.addToFeature dialect line = .ok (next, faults)) :
    Takes dialect line draft next faults := by
  unfold addToFeature at taken
  split at taken
  case h_1 feature present =>
    rcases Reading.within_eq_ok_iff.mp taken with ⟨inner, read, rfl⟩
    exact .inner present routed (Feature.Draft.add_eq_ok_iff.mp read)
  case h_2 absent =>
    have outside : draft.inDocString = false := by simp [inDocString, absent]
    split_ifs at taken with white
    cases taken
    exact .blank outside white (.inr absent)

-- The cases are the branches of `place`, in its order.
private theorem takes_of_place (taken : draft.place dialect line = .ok (next, faults)) :
    Takes dialect line draft next faults := by
  simp only [place] at taken
  split_ifs at taken with inside comment tag idle refused colon
  · exact takes_of_addToFeature (.inl inside) taken
  all_goals rw [Bool.not_eq_true] at inside
  · cases taken
    exact .comment inside comment
  · cases taken
    exact .tag inside tag
  · cases taken
    rw [Bool.and_eq_true] at idle
    exact .blank inside idle.2 (.inl idle.1)
  all_goals
    have admitted : draft.pending = none ∨ (dialect.role line).takesTags = true := by
      cases pending : draft.pending with
      | none => exact .inl rfl
      | some tags => exact .inr (by simpa [pending] using refused)
  · exact takes_of_openConstruct inside admitted taken
  · rw [Bool.not_eq_true] at colon
    have unclaimed : draft.pending = none :=
      admitted.resolve_right (by
        cases role : dialect.role line <;> simp_all [Role.takesTags, Role.takesColon])
    exact takes_of_addToFeature (.inr ⟨unclaimed, comment, tag, colon⟩) taken

private theorem place_of_takes (taken : Takes dialect line draft next faults) :
    draft.place dialect line = .ok (next, faults) := by
  cases taken with
  | comment outside role => simp [place, outside, role]
  | tag outside role => simp [place, outside, role, PendingTags.add]
  | blank outside white idle =>
      have role := Dialect.role_of_isBlank dialect white
      rcases idle with waiting | absent
      · simp [place, outside, role, white, waiting]
      · cases pending : draft.pending <;>
          simp [place, outside, role, white, absent, pending, Role.takesColon, addToFeature]
  | feature outside role absent =>
      have solid : line.isBlank = false := Dialect.isBlank_of_role (by rw [role]; decide)
      simp [place, outside, role, absent, solid, Role.takesTags, Role.takesColon, openConstruct]
  | background outside role present unclaimed inHeader =>
      simp [place, outside, role, present, unclaimed, Role.takesColon, openConstruct,
        Feature.Draft.addBackground, inHeader]
  | scenario outside role present =>
      have solid : line.isBlank = false :=
        Dialect.isBlank_of_role (by rcases role with role | role <;> rw [role] <;> decide)
      rcases role with role | role <;>
        simp [place, outside, role, present, solid, Role.takesTags, Role.takesColon, openConstruct,
          Feature.Draft.addScenario]
  | examples outside role present scenarios isOutline =>
      have solid : line.isBlank = false := Dialect.isBlank_of_role (by rw [role]; decide)
      simp [place, outside, role, present, scenarios, isOutline, solid, Role.takesTags,
        Role.takesColon, openConstruct, Feature.Draft.addExamples, Scenario.Draft.addExamples]
  | inner present routed taken =>
      have read := Feature.Draft.add_eq_ok_iff.mpr taken
      rcases routed with inside | ⟨unclaimed, comment, tag, colon⟩
      · simp [place, inside, addToFeature, present, read]
      · simp [place, unclaimed, comment, tag, colon, addToFeature, present, read]

/-- A line that is no language directive is taken up in one of the listed ways or not at all. -/
theorem place_eq_ok_iff :
    draft.place dialect line = .ok (next, faults) ↔ Takes dialect line draft next faults :=
  ⟨takes_of_place, place_of_takes⟩

end Document.Draft
end Gherkin
