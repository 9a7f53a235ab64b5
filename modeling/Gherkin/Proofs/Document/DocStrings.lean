import Gherkin.Proofs.Reading.Rules

namespace Gherkin

/-!
# The doc-strings of a document

A change of doc-strings is carried through a document: every doc-string is
changed, and whatever else the document holds stays as it is.  The same is done
for documents in progress.  Finishing a document turns the second into the first.
-/

/-! ## Finished documents -/

section

variable (change : DocString → DocString)

/-- The argument, with a change if it is a doc-string. -/
def Argument.mapDocStrings : Argument → Argument
  | table body => table body
  | docString body => docString (change body)

/-- The step with a change of its doc-string. -/
def Step.mapDocStrings (step : Step) : Step :=
  { step with argument := step.argument.map (Argument.mapDocStrings change) }

/-- The background with a change of its doc-strings. -/
def Background.mapDocStrings (background : Background) : Background :=
  { background with steps := background.steps.map (Step.mapDocStrings change) }

/-- The scenario with a change of its doc-strings. -/
def Scenario.mapDocStrings (scenario : Scenario) : Scenario :=
  { scenario with steps := scenario.steps.map (Step.mapDocStrings change) }

/-- The feature with a change of its doc-strings. -/
def Feature.mapDocStrings (feature : Feature) : Feature :=
  { feature with
    background := feature.background.map (Background.mapDocStrings change)
    scenarios := feature.scenarios.map (Scenario.mapDocStrings change) }

/-- The document with a change of its doc-strings. -/
def Document.mapDocStrings (document : Document) : Document :=
  { document with feature := document.feature.map (Feature.mapDocStrings change) }

end

/-- The doc-strings of a document, in their order. -/
def Document.docStrings (document : Document) : List DocString :=
  document.feature.toList.flatMap fun feature => feature.steps.filterMap Step.docString?

/-! ## Documents in progress -/

section

variable (change : DocString.Draft → DocString.Draft)

/-- The step in progress with a change of its doc-string. -/
def Step.Draft.mapDocStrings (step : Step.Draft) : Step.Draft :=
  { step with docString := step.docString.map change }

/-- The body in progress with a change of its doc-strings. -/
def Body.Draft.mapDocStrings (body : Body.Draft) : Body.Draft :=
  { body with steps := body.steps.map (Step.Draft.mapDocStrings change) }

/-- The background in progress with a change of its doc-strings. -/
def Background.Draft.mapDocStrings (background : Background.Draft) : Background.Draft :=
  { background with body := background.body.mapDocStrings change }

/-- The scenario in progress with a change of its doc-strings. -/
def Scenario.Draft.mapDocStrings (scenario : Scenario.Draft) : Scenario.Draft :=
  { scenario with body := scenario.body.mapDocStrings change }

/-- The feature in progress with a change of its doc-strings. -/
def Feature.Draft.mapDocStrings (feature : Feature.Draft) : Feature.Draft :=
  { feature with
    background := feature.background.map (Background.Draft.mapDocStrings change)
    scenarios := feature.scenarios.map (Scenario.Draft.mapDocStrings change) }

/-- The document in progress with a change of its doc-strings. -/
def Document.Draft.mapDocStrings (draft : Document.Draft) : Document.Draft :=
  { draft with feature := draft.feature.map (Feature.Draft.mapDocStrings change) }

end

/-- The doc-strings of a body in progress.  The last one comes first. -/
def Body.Draft.docStrings (body : Body.Draft) : List DocString.Draft :=
  body.steps.flatMap fun step => step.docString.toList

/-- The doc-strings of a feature in progress.  The last one comes first. -/
def Feature.Draft.docStrings (feature : Feature.Draft) : List DocString.Draft :=
  (feature.scenarios.flatMap fun scenario => scenario.body.docStrings) ++
    feature.background.toList.flatMap fun background => background.body.docStrings

/-- The doc-strings of a document in progress.  The last one comes first. -/
def Document.Draft.docStrings (draft : Document.Draft) : List DocString.Draft :=
  draft.feature.toList.flatMap Feature.Draft.docStrings

/-- The doc-string of which the next line of a body is one. -/
def Body.Draft.openDocString? (body : Body.Draft) : Option DocString.Draft :=
  body.steps.head?.bind fun step => step.docString.filter DocString.Draft.isOpen

/-- The doc-string of which the next line of a feature is one. -/
def Feature.Draft.openDocString? (feature : Feature.Draft) : Option DocString.Draft :=
  match feature.scenarios with
  | scenario :: _ => scenario.body.openDocString?
  | [] => feature.background.bind fun background => background.body.openDocString?

/-- The doc-string of which the next line of a document is one. -/
def Document.Draft.openDocString? (draft : Document.Draft) : Option DocString.Draft :=
  draft.feature.bind Feature.Draft.openDocString?

/-! ## Changes that do the same -/

section

variable {change other : DocString.Draft → DocString.Draft}

theorem Body.Draft.mapDocStrings_congr {body : Body.Draft}
    (same : ∀ docString ∈ body.docStrings, change docString = other docString) :
    body.mapDocStrings change = body.mapDocStrings other := by
  refine congrArg (Body.Draft.mk body.description) (List.map_congr_left fun step listed => ?_)
  refine congrArg (fun docString => { step with docString := docString }) ?_
  refine Option.map_congr fun docString begun => same docString ?_
  exact List.mem_flatMap.mpr ⟨step, listed, Option.mem_toList.mpr begun⟩

theorem Feature.Draft.mapDocStrings_congr {feature : Feature.Draft}
    (same : ∀ docString ∈ feature.docStrings, change docString = other docString) :
    feature.mapDocStrings change = feature.mapDocStrings other := by
  simp only [mapDocStrings]
  congr 1
  · refine Option.map_congr fun background present => ?_
    refine congrArg (Background.Draft.mk background.heading) ?_
    refine Body.Draft.mapDocStrings_congr fun docString listed => same docString ?_
    exact List.mem_append_right _
      (List.mem_flatMap.mpr ⟨background, Option.mem_toList.mpr present, listed⟩)
  · refine List.map_congr_left fun scenario among => ?_
    refine congrArg (fun body => { scenario with body := body }) ?_
    refine Body.Draft.mapDocStrings_congr fun docString listed => same docString ?_
    exact List.mem_append_left _ (List.mem_flatMap.mpr ⟨scenario, among, listed⟩)

theorem Document.Draft.mapDocStrings_congr {draft : Document.Draft}
    (same : ∀ docString ∈ draft.docStrings, change docString = other docString) :
    draft.mapDocStrings change = draft.mapDocStrings other := by
  refine congrArg (fun feature => { draft with feature := feature }) ?_
  refine Option.map_congr fun feature present => ?_
  refine Feature.Draft.mapDocStrings_congr fun docString listed => same docString ?_
  exact List.mem_flatMap.mpr ⟨feature, Option.mem_toList.mpr present, listed⟩

@[simp] theorem Document.Draft.mapDocStrings_id (draft : Document.Draft) :
    draft.mapDocStrings id = draft := by
  have step : Step.Draft.mapDocStrings id = id := funext fun step => by simp [Step.Draft.mapDocStrings]
  have body : Body.Draft.mapDocStrings id = id :=
    funext fun body => by simp [Body.Draft.mapDocStrings, step]
  have background : Background.Draft.mapDocStrings id = id :=
    funext fun background => by simp [Background.Draft.mapDocStrings, body]
  have scenario : Scenario.Draft.mapDocStrings id = id :=
    funext fun scenario => by simp [Scenario.Draft.mapDocStrings, body]
  have feature : Feature.Draft.mapDocStrings id = id :=
    funext fun feature => by simp [Feature.Draft.mapDocStrings, background, scenario]
  simp [mapDocStrings, feature]

theorem Document.Draft.mapDocStrings_mapDocStrings (draft : Document.Draft) :
    (draft.mapDocStrings change).mapDocStrings other = draft.mapDocStrings (other ∘ change) := by
  have step : Step.Draft.mapDocStrings other ∘ Step.Draft.mapDocStrings change =
      Step.Draft.mapDocStrings (other ∘ change) :=
    funext fun step => by simp [Step.Draft.mapDocStrings]
  have body : Body.Draft.mapDocStrings other ∘ Body.Draft.mapDocStrings change =
      Body.Draft.mapDocStrings (other ∘ change) :=
    funext fun body => by simp [Body.Draft.mapDocStrings, step]
  have background : Background.Draft.mapDocStrings other ∘ Background.Draft.mapDocStrings change =
      Background.Draft.mapDocStrings (other ∘ change) :=
    funext fun background => congrArg (Background.Draft.mk background.heading) (congrFun body background.body)
  have scenario : Scenario.Draft.mapDocStrings other ∘ Scenario.Draft.mapDocStrings change =
      Scenario.Draft.mapDocStrings (other ∘ change) :=
    funext fun scenario =>
      congrArg (fun body => { scenario with body := body }) (congrFun body scenario.body)
  have feature : Feature.Draft.mapDocStrings other ∘ Feature.Draft.mapDocStrings change =
      Feature.Draft.mapDocStrings (other ∘ change) :=
    funext fun feature => by simp [Feature.Draft.mapDocStrings, background, scenario]
  simp [mapDocStrings, feature]

end

/-! ## Finishing -/

section

variable {change : DocString.Draft → DocString.Draft} {finished : DocString → DocString}

theorem Step.Draft.finish_mapDocStrings {step : Step.Draft}
    (same : ∀ docString ∈ step.docString, (change docString).finish = finished docString.finish) :
    (step.mapDocStrings change).finish = step.finish.mapDocStrings finished := by
  cases begun : step.docString with
  | none =>
      cases table : step.table <;>
        simp [mapDocStrings, finish, argument, Step.mapDocStrings, Argument.mapDocStrings, begun, table]
  | some docString =>
      have own := same docString begun
      cases table : step.table <;>
        simp [mapDocStrings, finish, argument, Step.mapDocStrings, Argument.mapDocStrings, begun, table,
          own]

theorem Body.Draft.finish_steps_mapDocStrings {body : Body.Draft}
    (same : ∀ docString ∈ body.docStrings, (change docString).finish = finished docString.finish) :
    (body.mapDocStrings change).steps.finish =
      body.steps.finish.map (Step.mapDocStrings finished) := by
  simp only [mapDocStrings, Step.Sequence.finish, ← List.map_reverse, List.map_map]
  refine List.map_congr_left fun step listed => ?_
  refine Step.Draft.finish_mapDocStrings fun docString begun => same docString ?_
  exact List.mem_flatMap.mpr ⟨step, List.mem_reverse.mp listed, Option.mem_toList.mpr begun⟩

theorem Feature.Draft.finish_mapDocStrings {feature : Feature.Draft} (code : Text)
    (same : ∀ docString ∈ feature.docStrings, (change docString).finish = finished docString.finish) :
    (feature.mapDocStrings change).finish code = (feature.finish code).mapDocStrings finished := by
  have background : ∀ background ∈ feature.background,
      (background.mapDocStrings change).finish = background.finish.mapDocStrings finished := by
    intro background present
    have steps := Body.Draft.finish_steps_mapDocStrings fun docString listed =>
      same docString (List.mem_append_right _
        (List.mem_flatMap.mpr ⟨background, Option.mem_toList.mpr present, listed⟩))
    exact congrArg (Background.mk background.heading background.body.description.finish) steps
  have scenario : ∀ scenario ∈ feature.scenarios,
      (scenario.mapDocStrings change).finish = scenario.finish.mapDocStrings finished := by
    intro scenario listed
    have steps := Body.Draft.finish_steps_mapDocStrings fun docString among =>
      same docString (List.mem_append_left _ (List.mem_flatMap.mpr ⟨scenario, listed, among⟩))
    exact congrArg (Scenario.mk scenario.heading scenario.body.description.finish scenario.tags · _) steps
  simp only [mapDocStrings, finish, Feature.mapDocStrings, Option.map_map, ← List.map_reverse,
    List.map_map]
  congr 1
  · exact Option.map_congr background
  · exact List.map_congr_left fun item listed => scenario item (List.mem_reverse.mp listed)

/-- A change that can be made before or after finishing each doc-string can be made before or
after finishing the document. -/
theorem Document.Draft.finish_mapDocStrings {draft : Document.Draft} (uri : Text)
    (same : ∀ docString ∈ draft.docStrings, (change docString).finish = finished docString.finish) :
    (draft.mapDocStrings change).finish uri = (draft.finish uri).mapDocStrings finished := by
  simp only [mapDocStrings, finish, Document.mapDocStrings, Option.map_map]
  congr 1
  refine Option.map_congr fun feature present => ?_
  refine Feature.Draft.finish_mapDocStrings draft.language.code fun docString listed => same docString ?_
  exact List.mem_flatMap.mpr ⟨feature, Option.mem_toList.mpr present, listed⟩

end

/-- A doc-string is lost only if its step has a table as well. -/
theorem Body.Draft.sublist_docStrings (body : Body.Draft) :
    (body.steps.finish.filterMap Step.docString?).Sublist
      (body.docStrings.reverse.map DocString.Draft.finish) := by
  rcases body with ⟨description, steps⟩
  induction steps with
  | nil => exact .slnil
  | cons step earlier inductionHypothesis =>
      have own : ([step.finish].filterMap Step.docString?).Sublist
          (step.docString.toList.reverse.map DocString.Draft.finish) := by
        cases table : step.table <;> cases begun : step.docString <;>
          simp [Step.Draft.finish, Step.Draft.argument, Step.docString?, table, begun]
      simpa [Step.Sequence.finish, docStrings] using inductionHypothesis.append own

theorem Feature.Draft.sublist_docStrings (feature : Feature.Draft) (code : Text) :
    ((feature.finish code).steps.filterMap Step.docString?).Sublist
      (feature.docStrings.reverse.map DocString.Draft.finish) := by
  rcases feature with ⟨heading, tags, description, background, scenarios⟩
  have backgrounds : (((background.map Background.Draft.finish).map Background.steps).getD [] |>.filterMap
      Step.docString?).Sublist ((background.toList.flatMap fun background =>
        background.body.docStrings).reverse.map DocString.Draft.finish) := by
    cases background with
    | none => exact .slnil
    | some background => simpa [Background.Draft.finish] using background.body.sublist_docStrings
  have lists : (((scenarios.reverse.map Scenario.Draft.finish).flatMap Scenario.steps).filterMap
      Step.docString?).Sublist ((scenarios.flatMap fun scenario =>
        scenario.body.docStrings).reverse.map DocString.Draft.finish) := by
    induction scenarios with
    | nil => exact .slnil
    | cons scenario earlier inductionHypothesis =>
        simpa [Scenario.Draft.finish] using
          inductionHypothesis.append scenario.body.sublist_docStrings
  simpa [finish, Feature.steps, docStrings] using backgrounds.append lists

theorem Document.Draft.sublist_docStrings (draft : Document.Draft) (uri : Text) :
    (draft.finish uri).docStrings.Sublist (draft.docStrings.reverse.map DocString.Draft.finish) := by
  cases present : draft.feature with
  | none => simp [finish, Document.docStrings, present]
  | some feature =>
      simpa [finish, Document.docStrings, docStrings, present] using
        feature.sublist_docStrings draft.language.code

end Gherkin
