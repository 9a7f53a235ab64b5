import Gherkin.Proofs.Document.DocStrings
import Gherkin.Proofs.Reading.Refusal

namespace Gherkin

/-!
# What a line does to the doc-strings

A line opens a further doc-string, or goes to the last one, or leaves all of them as
they are.  It can only go to the last one, and only if that is open.
-/

/-- What a line does to the doc-strings, the last of which comes first. -/
inductive DocString.Draft.Grows (dialect : Dialect) (line : Line) (docStrings : List Draft) :
    List Draft → Prop
  | kept : Grows dialect line docStrings docStrings
  | opened {opening : Opening} (opens : Opening.onLine? dialect.separators line = some opening) :
      Grows dialect line docStrings (⟨opening, [], true⟩ :: docStrings)
  | content {docString : Draft} {earlier : List Draft} (last : docStrings = docString :: earlier)
      (isOpen : docString.isOpen = true) :
      Grows dialect line docStrings (docString.add line :: earlier)

variable {dialect : Dialect} {line : Line} {faults : List Fault}

theorem DocString.Draft.Grows.append {docStrings next : List Draft}
    (grows : Grows dialect line docStrings next) (earlier : List Draft) :
    Grows dialect line (docStrings ++ earlier) (next ++ earlier) := by
  cases grows with
  | kept => exact .kept
  | opened opens => exact .opened opens
  | @content docString others last isOpen => exact .content (congrArg (· ++ earlier) last) isOpen

/-! ## The last doc-string -/

theorem Body.Draft.docStrings_of_steps (body : Body.Draft) {step : Step.Draft}
    {earlier : Step.Sequence} (steps : body.steps = step :: earlier) :
    body.docStrings = step.docString.toList ++ Body.Draft.docStrings ⟨body.description, earlier⟩ := by
  rw [docStrings, steps, List.flatMap_cons, docStrings]

theorem Feature.Draft.docStrings_of_scenarios (feature : Feature.Draft) {scenario : Scenario.Draft}
    {earlier : List Scenario.Draft} (scenarios : feature.scenarios = scenario :: earlier) :
    feature.docStrings =
      scenario.body.docStrings ++ docStrings { feature with scenarios := earlier } := by
  simp only [docStrings, scenarios, List.flatMap_cons, List.append_assoc]

theorem Feature.Draft.docStrings_of_background (feature : Feature.Draft)
    {background : Background.Draft} (scenarios : feature.scenarios = [])
    (present : feature.background = some background) :
    feature.docStrings = background.body.docStrings := by
  simp [docStrings, scenarios, present]

theorem Document.Draft.docStrings_of_feature (draft : Document.Draft) {feature : Feature.Draft}
    (present : draft.feature = some feature) : draft.docStrings = feature.docStrings := by
  simp [docStrings, present]

/-! ## The open doc-string -/

theorem Body.Draft.openDocString?_eq_some_iff {body : Body.Draft} {docString : DocString.Draft} :
    body.openDocString? = some docString ↔
      ∃ step earlier, body.steps = step :: earlier ∧ step.docString = some docString ∧
        docString.isOpen = true := by
  cases steps : body.steps with
  | nil => simp [openDocString?, steps]
  | cons step earlier => simp [openDocString?, steps, Option.filter_eq_some_iff]

theorem Body.Draft.isSome_openDocString? (body : Body.Draft) :
    body.openDocString?.isSome = body.inDocString := by
  cases steps : body.steps with
  | nil => simp [openDocString?, inDocString, Step.Sequence.inDocString, steps]
  | cons step earlier =>
      rw [inDocString_of_steps steps, openDocString?, steps, List.head?_cons, Option.bind_some,
        Option.isSome_filter, Step.Draft.inDocString, DocString.inProgress]

theorem Feature.Draft.isSome_openDocString? (feature : Feature.Draft) :
    feature.openDocString?.isSome = feature.inDocString := by
  cases scenarios : feature.scenarios with
  | cons scenario earlier =>
      rw [inDocString_of_scenarios scenarios, openDocString?, scenarios]
      exact scenario.body.isSome_openDocString?
  | nil =>
      cases present : feature.background with
      | none => simp [openDocString?, inDocString, scenarios, present]
      | some background =>
          rw [inDocString_of_background scenarios present, openDocString?, scenarios, present]
          exact background.body.isSome_openDocString?

theorem Feature.Draft.inDocString_of_opened {feature : Feature.Draft} {docString : DocString.Draft}
    (opened : feature.openDocString? = some docString) : feature.inDocString = true := by
  rw [← isSome_openDocString?, opened, Option.isSome_some]

theorem Document.Draft.isSome_openDocString? (draft : Document.Draft) :
    draft.openDocString?.isSome = draft.inDocString := by
  cases present : draft.feature with
  | none => simp [openDocString?, inDocString, present]
  | some feature =>
      rw [inDocString_of_feature present, openDocString?, present]
      exact feature.isSome_openDocString?

theorem Document.Draft.inDocString_of_opened {draft : Document.Draft} {docString : DocString.Draft}
    (opened : draft.openDocString? = some docString) : draft.inDocString = true := by
  rw [← isSome_openDocString?, opened, Option.isSome_some]

theorem Body.Draft.mem_docStrings_of_opened {body : Body.Draft} {docString : DocString.Draft}
    (opened : body.openDocString? = some docString) : docString ∈ body.docStrings := by
  rcases openDocString?_eq_some_iff.mp opened with ⟨step, earlier, steps, begun, -⟩
  rw [docStrings_of_steps _ steps, begun]
  exact List.mem_cons_self

theorem Feature.Draft.mem_docStrings_of_opened {feature : Feature.Draft} {docString : DocString.Draft}
    (opened : feature.openDocString? = some docString) : docString ∈ feature.docStrings := by
  cases scenarios : feature.scenarios with
  | cons scenario earlier =>
      simp only [openDocString?, scenarios] at opened
      rw [docStrings_of_scenarios _ scenarios]
      exact List.mem_append_left _ (Body.Draft.mem_docStrings_of_opened opened)
  | nil =>
      simp only [openDocString?, scenarios] at opened
      rcases Option.bind_eq_some_iff.mp opened with ⟨background, present, inBody⟩
      rw [docStrings_of_background _ scenarios present]
      exact Body.Draft.mem_docStrings_of_opened inBody

theorem Document.Draft.mem_docStrings_of_opened {draft : Document.Draft} {docString : DocString.Draft}
    (opened : draft.openDocString? = some docString) : docString ∈ draft.docStrings := by
  rcases Option.bind_eq_some_iff.mp opened with ⟨feature, present, inFeature⟩
  rw [docStrings_of_feature _ present]
  exact Feature.Draft.mem_docStrings_of_opened inFeature

/-! ## Lines -/

theorem Body.Draft.Takes.docStrings {body next : Body.Draft}
    (taken : Body.Draft.Takes dialect line body next faults) :
    DocString.Draft.Grows dialect line body.docStrings next.docStrings := by
  cases taken with
  | content steps unfinished isOpen =>
      rw [docStrings_of_steps _ steps, unfinished]
      exact .content rfl isOpen
  | @step start outside starts =>
      rw [docStrings_of_steps { body with steps := start :: body.steps } rfl,
        Step.Draft.free_of_onLine? starts]
      exact .kept
  | @row step earlier steps free role unmarked =>
      rw [docStrings_of_steps _ steps]
      exact .kept
  | opening steps free silent admitted opens =>
      rw [docStrings_of_steps _ steps, free]
      exact .opened opens
  | blank => exact .kept
  | description => exact .kept

theorem Feature.Draft.Takes.docStrings {feature next : Feature.Draft}
    (taken : Feature.Draft.Takes dialect line feature next faults) :
    DocString.Draft.Grows dialect line feature.docStrings next.docStrings := by
  cases taken with
  | @scenario scenario earlier body _ scenarios inBody taken =>
      have after := docStrings_of_scenarios
        { feature with scenarios := { scenario with body := body } :: earlier } rfl
      rw [docStrings_of_scenarios _ scenarios, after]
      exact taken.docStrings.append _
  | @examples scenario earlier block next blocks _ scenarios outside examples taken =>
      have after := docStrings_of_scenarios
        { feature with scenarios := { scenario with examples := next :: blocks } :: earlier } rfl
      rw [docStrings_of_scenarios _ scenarios, after]
      exact .kept
  | @background background body _ scenarios present taken =>
      have after := docStrings_of_background
        { feature with background := some { background with body := body } } scenarios rfl
      rw [docStrings_of_background _ scenarios present, after]
      exact taken.docStrings
  | description => exact .kept

theorem Document.Draft.Takes.docStrings {draft next : Document.Draft}
    (taken : Document.Draft.Takes dialect line draft next faults) :
    DocString.Draft.Grows dialect line draft.docStrings next.docStrings := by
  cases taken with
  | comment | tag | blank => exact .kept
  | feature outside role absent =>
      have none : draft.docStrings = [] := by simp [Document.Draft.docStrings, absent]
      rw [none]
      exact .kept
  | @background feature outside role present unclaimed inHeader =>
      rw [Feature.Draft.inHeader_iff] at inHeader
      have none : feature.docStrings = [] := by simp [Feature.Draft.docStrings, inHeader]
      have noneLater := Feature.Draft.docStrings_of_background
        { feature with background := some (.onLine dialect line) } inHeader.2 rfl
      rw [docStrings_of_feature _ present, none, docStrings_of_feature _ (withFeature_feature _), noneLater]
      exact .kept
  | @scenario feature outside role present =>
      have after := Feature.Draft.docStrings_of_scenarios
        { feature with scenarios := .onLine dialect draft.pending.tags line :: feature.scenarios } rfl
      rw [docStrings_of_feature _ present, docStrings_of_feature _ (withFeature_feature _), after]
      exact .kept
  | @examples feature scenario earlier outside role present scenarios isOutline =>
      have after := Feature.Draft.docStrings_of_scenarios
        { feature with
          scenarios := { scenario with
            examples := .onLine dialect draft.pending.tags line :: scenario.examples } :: earlier } rfl
      rw [docStrings_of_feature _ present, docStrings_of_feature _ (withFeature_feature _), after,
        Feature.Draft.docStrings_of_scenarios _ scenarios]
      exact .kept
  | @inner feature next _ present routed taken =>
      have after := docStrings_of_feature { draft with feature := some next } rfl
      rw [docStrings_of_feature _ present, after]
      exact taken.docStrings

/-! ## Runs -/

namespace Document.Draft

variable {settings : Settings} {draft next : Draft}

theorem Adds.docStrings (adds : Adds settings line draft next faults) :
    DocString.Draft.Grows (settings.dialect draft.language) line draft.docStrings next.docStrings := by
  cases adds with
  | taken undirected taken => exact taken.docStrings
  | _ => exact .kept

/-- What holds of every doc-string once it is opened, and keeps holding with every line that is
read, holds of all doc-strings at any time. -/
theorem forall_docStrings_addAll {property : DocString.Draft → Prop} {lines : List Line}
    (opening : ∀ line ∈ lines, ∀ opening,
      DocString.Opening.onLine? settings.separators line = some opening → property ⟨opening, [], true⟩)
    (content : ∀ line ∈ lines, ∀ docString, property docString → property (docString.add line))
    (before : ∀ docString ∈ draft.docStrings, property docString) :
    ∀ docString ∈ (draft.addAll settings lines).1.docStrings, property docString := by
  refine @addAll_induction draft _ (fun later => ∀ docString ∈ later.docStrings, property docString) _
    ?_ before
  intro line listed earlier next faults adds before
  have grows := adds.docStrings
  generalize next.docStrings = docStrings at grows
  cases grows with
  | kept => exact before
  | opened opens => exact List.forall_mem_cons.mpr ⟨opening line listed _ opens, before⟩
  | content last isOpen =>
      rw [last] at before
      have both := List.forall_mem_cons.mp before
      exact List.forall_mem_cons.mpr ⟨content line listed _ both.1, both.2⟩

end Document.Draft

/-! ## Places -/

/-- The doc-strings begin on lines up to the given one, and later ones on later lines. -/
structure DocString.Draft.Ordered (last : Nat) (docStrings : List Draft) : Prop where
  bounded : ∀ docString ∈ docStrings, docString.opening.location.line ≤ last
  rising : docStrings.Pairwise fun later earlier =>
    earlier.opening.location.line < later.opening.location.line

theorem DocString.Opening.line_of_onLine? {separators : Separators} {opening : Opening}
    (opens : onLine? separators line = some opening) : opening.location.line = line.number := by
  rcases Option.map_eq_some_iff.mp opens with ⟨separator, -, rfl⟩
  rfl

theorem DocString.Draft.Grows.ordered {docStrings next : List Draft} {last : Nat}
    (grows : Grows dialect line docStrings next) (later : last < line.number)
    (ordered : Ordered last docStrings) : Ordered line.number next := by
  have bounded := fun docString listed => (ordered.bounded docString listed).trans later.le
  cases grows with
  | kept => exact ⟨bounded, ordered.rising⟩
  | opened opens =>
      have here := Opening.line_of_onLine? opens
      refine ⟨List.forall_mem_cons.mpr ⟨here.le, bounded⟩, List.pairwise_cons.mpr ⟨?_, ordered.rising⟩⟩
      intro docString listed
      exact (ordered.bounded docString listed).trans_lt (later.trans_eq here.symm)
  | content last isOpen =>
      rw [last] at bounded
      have rising := ordered.rising
      rw [last] at rising
      refine ⟨?_, ?_⟩
      · simpa using bounded
      · simpa using rising

private theorem Document.Draft.exists_ordered_addAll {settings : Settings} {draft : Document.Draft}
    {last first : Nat} (texts : List Text) (later : last < first)
    (ordered : DocString.Draft.Ordered last draft.docStrings) :
    ∃ last, DocString.Draft.Ordered last
      (draft.addAll settings (Line.numberFrom first texts)).1.docStrings := by
  induction texts generalizing draft last first with
  | nil => exact ⟨last, ordered⟩
  | cons text rest inductionHypothesis =>
      have grows := (adds_add settings draft ⟨text, first⟩).docStrings
      exact inductionHypothesis (Nat.lt_succ_self first) (grows.ordered later ordered)

theorem Document.Draft.exists_ordered (settings : Settings) (texts : List Text) :
    ∃ last, DocString.Draft.Ordered last
      ((empty settings).addAll settings (Line.numberFrom 1 texts)).1.docStrings :=
  exists_ordered_addAll texts Nat.zero_lt_one ⟨by simp [docStrings, empty], .nil⟩

/-- No two doc-strings of a document begin at the same place. -/
theorem nodup_location_docStrings (settings : Settings) (uri : Text) (texts : List Text) :
    ((readDocument settings uri (Line.numberFrom 1 texts)).1.docStrings.map
      DocString.location).Nodup := by
  rcases Document.Draft.exists_ordered settings texts with ⟨last, ordered⟩
  have kept := (Document.Draft.sublist_docStrings
    ((Document.Draft.empty settings).addAll settings (Line.numberFrom 1 texts)).1 uri).map
      DocString.location
  rw [readDocument_eq]
  refine kept.nodup ?_
  rw [List.map_map, List.Nodup, List.pairwise_map, List.pairwise_reverse]
  refine ordered.rising.imp fun {later earlier} before same => ?_
  have lines : earlier.opening.location.line = later.opening.location.line := congrArg Location.line same
  rw [lines] at before
  exact Nat.lt_irrefl _ before

end Gherkin
