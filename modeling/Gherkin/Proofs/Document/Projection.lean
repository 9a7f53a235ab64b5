import Gherkin.Proofs.Document.Erasure
import Gherkin.Proofs.Json.Members

namespace Gherkin

/-!
# What a document's projection carries

The projection says nothing about the kinds of steps, the places of tags, the columns of tables
and the places of their bodies, and it gives the place of a header for the tables of steps only.
Everything else can be read off from it, in particular what it leaves out because it is empty.

The parts are read off by their keys, one record at a time.  No record has two members under
one key, and of each member it is known which value would have been left out.
-/

/-! ## Leaving out what is not carried -/

/-- The table with its columns and the place of its body forgotten. -/
def Table.carried (table : Table) : Table :=
  { table with columns := [], bodyLocation := none }

/-- The argument as a step's projection carries it. -/
def Argument.carried : Argument → Argument
  | table body => table body.carried
  | docString body => docString body

/-- The step with its kind forgotten. -/
def Step.carried (step : Step) : Step :=
  { step with kind := .bullet, argument := step.argument.map Argument.carried }

/-- The background with its steps as they are carried. -/
def Background.carried (background : Background) : Background :=
  { background with steps := background.steps.map Step.carried }

/-- The table of an examples block, of which the place of the header is forgotten too. -/
def Examples.carriedTable (table : Table) : Table :=
  { table.carried with headerLocation := .erased }

/-- The examples block as it is carried. -/
def Examples.carried (examples : Examples) : Examples :=
  { examples with
    tags := examples.tags.map Tag.erased
    table := examples.table.map Examples.carriedTable }

/-- The scenario as it is carried. -/
def Scenario.carried (scenario : Scenario) : Scenario :=
  { scenario with
    tags := scenario.tags.map Tag.erased
    steps := scenario.steps.map Step.carried
    examples := scenario.examples.map Examples.carried }

/-- The feature as it is carried. -/
def Feature.carried (feature : Feature) : Feature :=
  { feature with
    tags := feature.tags.map Tag.erased
    background := feature.background.map Background.carried
    scenarios := feature.scenarios.map Scenario.carried }

/-- The document as it is carried. -/
def Document.carried (document : Document) : Document :=
  { document with feature := document.feature.map Feature.carried }

attribute [ext] Location Tag Comment Cell Row Table DocString Step Heading

open Json (Same Carries)

/-! ## Places, texts and tables -/

theorem Location.carries : Carries Location.project id := by
  intro first second same
  have lines : (first.line : Int) = second.line := by simpa using same.under "line"
  have columns : (first.column : Int) = second.column := by simpa using same.under "column"
  exact Location.ext (Int.ofNat_inj.mp lines) (Int.ofNat_inj.mp columns)

theorem Comment.carries : Carries Comment.project id := by
  intro first second same
  have locations : Same first.location.project second.location.project := by
    simpa using same.under "location"
  have texts : first.text = second.text := by simpa using same.under "text"
  exact Comment.ext texts (Location.carries _ _ locations)

theorem Cell.carries : Carries Cell.project id := by
  intro first second same
  have locations : Same first.location.project second.location.project := by
    simpa using same.under "location"
  have values : first.value = second.value := by simpa using same.under "value"
  exact Cell.ext values (Location.carries _ _ locations)

theorem Row.carries : Carries Row.project id := by
  intro first second same
  have locations : Same first.location.project second.location.project := by
    simpa using same.under "location"
  have cells : List.Forall₂ Same (first.cells.map Cell.project) (second.cells.map Cell.project) := by
    simpa using same.under "cells"
  have carried := Cell.carries.list cells
  exact Row.ext (by simpa using carried) (Location.carries _ _ locations)

theorem Table.carries : Carries Table.project Table.carried := by
  intro first second same
  have locations : Same first.headerLocation.project second.headerLocation.project := by
    simpa using same.under "location"
  have rows : List.Forall₂ Same (first.allRows.map Row.project) (second.allRows.map Row.project) := by
    simpa using same.under "rows"
  have all : first.allRows = second.allRows := by simpa using Row.carries.list rows
  rcases List.cons.inj all with ⟨headers, bodies⟩
  exact Table.ext rfl headers bodies (Location.carries _ _ locations) rfl

theorem DocString.carries : Carries DocString.project id := by
  intro first second same
  have locations : Same first.location.project second.location.project := by
    simpa using same.under "location"
  have contents : first.content = second.content := by simpa using same.under "content"
  have separators : first.separator = second.separator := by simpa using same.under "delimiter"
  have types : Option.Rel Same (first.mediaType.map .string) (second.mediaType.map .string) := by
    simpa using same.under "mediaType"
  have mediaTypes : first.mediaType = second.mediaType := by
    simpa using Json.string_carries.option types
  exact DocString.ext separators contents mediaTypes (Location.carries _ _ locations)

theorem Tag.carries : Carries (fun tag => .string tag.marked) Tag.erased := by
  intro first second same
  have names : first.name = second.name := by simpa [Tag.marked] using same
  exact Tag.ext names rfl

/-! ## Steps -/

/-- A step's argument, put together from the two members that hold one. -/
theorem Step.argument_carried (step : Step) :
    step.argument.map Argument.carried =
      ((step.table?.map Table.carried).map .table).or ((step.docString?.map id).map .docString) := by
  unfold Step.table? Step.docString?
  cases step.argument with
  | none => rfl
  | some argument => cases argument <;> rfl

theorem Step.carries : Carries Step.project Step.carried := by
  intro first second same
  have keywords : first.keyword = second.keyword := by simpa using same.under "keyword"
  have texts : first.text = second.text := by simpa using same.under "text"
  have locations : Same first.location.project second.location.project := by
    simpa using same.under "location"
  have tables : Option.Rel Same (first.table?.map Table.project) (second.table?.map Table.project) := by
    simpa using same.under "dataTable"
  have docStrings : Option.Rel Same (first.docString?.map DocString.project)
      (second.docString?.map DocString.project) := by
    simpa using same.under "docString"
  have arguments : first.argument.map Argument.carried = second.argument.map Argument.carried := by
    rw [Step.argument_carried, Step.argument_carried, Table.carries.option tables,
      DocString.carries.option docStrings]
  exact Step.ext rfl keywords texts arguments (Location.carries _ _ locations)

/-! ## Headings and what is below them -/

/-- A heading and its description are carried by any object in which they stand before members
with other keys. -/
theorem Heading.eq_of_same {first second : Heading} {description other : Option Text}
    {members entries : List (Text × Json)}
    (same : Same (.object (first.projectWith description ++ members))
      (.object (second.projectWith other ++ entries)))
    (elsewhere : ∀ key ∈ ["name", "description"],
      Json.under key members = none ∧ Json.under key entries = none) :
    first = second ∧ description = other := by
  have unnamed := elsewhere "name" (by simp)
  have undescribed := elsewhere "description" (by simp)
  have keywords : first.keyword = second.keyword := by
    simpa [Heading.projectWith] using same.under "keyword"
  have locations : Same first.location.project second.location.project := by
    simpa [Heading.projectWith] using same.under "location"
  have names : first.name = second.name := by
    apply Json.eq_of_omitted
    simpa [Heading.projectWith, unnamed] using same.under "name"
  have descriptions : Option.Rel Same (description.map .string) (other.map .string) := by
    simpa [Heading.projectWith, undescribed] using same.under "description"
  constructor
  · exact Heading.ext keywords names (Location.carries _ _ locations)
  · simpa using Json.string_carries.option descriptions

theorem Background.carries : Carries Background.project Background.carried := by
  intro first second same
  obtain ⟨headings, descriptions⟩ := Heading.eq_of_same same (by simp)
  have steps : List.Forall₂ Same (first.steps.map Step.project) (second.steps.map Step.project) := by
    apply Json.forall₂_of_omitted
    simpa [Heading.projectWith] using same.under "steps"
  simp only [Background.carried, headings, descriptions, Step.carries.list steps]

/-- The tables of examples blocks.  A table with a header and no rows below it is told from no
table by its header. -/
theorem Examples.table_carried {first second : Option Table}
    (headers : Option.Rel Same (first.map fun table => table.header.project)
      (second.map fun table => table.header.project))
    (bodies : List.Forall₂ Same (((first.map Table.rows).getD []).map Row.project)
      (((second.map Table.rows).getD []).map Row.project)) :
    first.map Examples.carriedTable = second.map Examples.carriedTable := by
  cases first with
  | none =>
      cases second with
      | none => rfl
      | some right => cases headers
  | some left =>
      cases second with
      | none => cases headers
      | some right =>
          have header : left.header = right.header := Row.carries _ _ (by simpa using headers)
          have rows : left.rows = right.rows := by simpa using Row.carries.list bodies
          simp only [Option.map_some, Examples.carriedTable, Table.carried, header, rows]

theorem Examples.carries : Carries Examples.project Examples.carried := by
  intro first second same
  simp only [Examples.project, List.append_assoc] at same
  obtain ⟨headings, descriptions⟩ := Heading.eq_of_same same (by simp)
  have tags : List.Forall₂ Same (Tag.projectAll first.tags) (Tag.projectAll second.tags) := by
    apply Json.forall₂_of_omitted
    simpa [Heading.projectWith] using same.under "tags"
  have headers : Option.Rel Same (first.table.map fun table => table.header.project)
      (second.table.map fun table => table.header.project) := by
    simpa [Heading.projectWith] using same.under "tableHeader"
  have bodies : List.Forall₂ Same (((first.table.map Table.rows).getD []).map Row.project)
      (((second.table.map Table.rows).getD []).map Row.project) := by
    apply Json.forall₂_of_omitted
    simpa [Heading.projectWith] using same.under "tableBody"
  simp only [Examples.carried, headings, descriptions, Tag.carries.list tags,
    Examples.table_carried headers bodies]

theorem Scenario.carries : Carries Scenario.project Scenario.carried := by
  intro first second same
  simp only [Scenario.project, List.append_assoc] at same
  obtain ⟨headings, descriptions⟩ := Heading.eq_of_same same (by simp)
  have tags : List.Forall₂ Same (Tag.projectAll first.tags) (Tag.projectAll second.tags) := by
    apply Json.forall₂_of_omitted
    simpa [Heading.projectWith] using same.under "tags"
  have steps : List.Forall₂ Same (first.steps.map Step.project) (second.steps.map Step.project) := by
    apply Json.forall₂_of_omitted
    simpa [Heading.projectWith] using same.under "steps"
  have examples : List.Forall₂ Same (first.examples.map Examples.project)
      (second.examples.map Examples.project) := by
    apply Json.forall₂_of_omitted
    simpa [Heading.projectWith] using same.under "examples"
  simp only [Scenario.carried, headings, descriptions, Tag.carries.list tags, Step.carries.list steps,
    Examples.carries.list examples]

/-! ## Features and documents -/

/-- A child of a feature that is a scenario. -/
theorem Scenario.child_carries :
    Carries (fun scenario => .object (Json.field "scenario" scenario.project)) Scenario.carried :=
  fun first second same => Scenario.carries first second same.of_field.2

/-- The children of a feature tell where the background ends: a scenario is no background. -/
theorem Feature.children_carried {first second : Feature}
    (same : List.Forall₂ Same first.children second.children) :
    first.background.map Background.carried = second.background.map Background.carried ∧
      first.scenarios.map Scenario.carried = second.scenarios.map Scenario.carried := by
  unfold Feature.children at same
  cases left : first.background with
  | none =>
      cases right : second.background with
      | none =>
          rw [left, right] at same
          exact ⟨rfl, Scenario.child_carries.list same⟩
      | some background =>
          rw [left, right] at same
          cases opens : first.scenarios with
          | nil =>
              rw [opens] at same
              cases same
          | cons scenario rest =>
              rw [opens] at same
              cases same with
              | cons same _ => exact absurd same.of_field.1 (by decide)
  | some background =>
      cases right : second.background with
      | none =>
          rw [left, right] at same
          cases opens : second.scenarios with
          | nil =>
              rw [opens] at same
              cases same
          | cons scenario rest =>
              rw [opens] at same
              cases same with
              | cons same _ => exact absurd same.of_field.1 (by decide)
      | some other =>
          rw [left, right] at same
          cases same with
          | cons same rest =>
              have carried := Background.carries _ _ same.of_field.2
              exact ⟨congrArg some carried, Scenario.child_carries.list rest⟩

theorem Feature.carries : Carries Feature.project Feature.carried := by
  intro first second same
  have keywords : first.keyword = second.keyword := by simpa using same.under "keyword"
  have languages : first.language = second.language := by simpa using same.under "language"
  have locations : Same first.location.project second.location.project := by
    simpa using same.under "location"
  have names : first.name = second.name := by
    apply Json.eq_of_omitted
    simpa using same.under "name"
  have descriptions : Option.Rel Same (first.description.map .string) (second.description.map .string) := by
    simpa using same.under "description"
  have described : first.description = second.description := by
    simpa using Json.string_carries.option descriptions
  have tags : List.Forall₂ Same (Tag.projectAll first.tags) (Tag.projectAll second.tags) := by
    apply Json.forall₂_of_omitted
    simpa using same.under "tags"
  have children : List.Forall₂ Same first.children second.children := by simpa using same.under "children"
  have headings : first.toHeading = second.toHeading :=
    Heading.ext keywords names (Location.carries _ _ locations)
  have ⟨backgrounds, scenarios⟩ := Feature.children_carried children
  simp only [Feature.carried, headings, languages, described, Tag.carries.list tags, backgrounds, scenarios]

theorem Document.carries : Carries Document.project Document.carried := by
  intro first second same
  have uris : first.uri = second.uri := by simpa using same.under "uri"
  have comments : List.Forall₂ Same (first.comments.map Comment.project)
      (second.comments.map Comment.project) := by
    apply Json.forall₂_of_omitted
    simpa using same.under "comments"
  have listed : first.comments = second.comments := by simpa using Comment.carries.list comments
  have features : Option.Rel Same (first.feature.map Feature.project)
      (second.feature.map Feature.project) := by
    simpa using same.under "feature"
  simp only [Document.carried, uris, listed, Feature.carries.option features]

/-! ## What is not carried is not projected -/

@[simp] theorem Tag.projectAll_erased (tags : List Tag) :
    Tag.projectAll (tags.map Tag.erased) = Tag.projectAll tags := by
  simp only [Tag.projectAll, List.map_map]
  rfl

@[simp] theorem Step.project_carried (step : Step) : step.carried.project = step.project := by
  obtain ⟨kind, keyword, text, argument, location⟩ := step
  cases argument with
  | none => rfl
  | some argument => cases argument <;> rfl

@[simp] theorem Background.project_carried (background : Background) :
    background.carried.project = background.project := by
  have steps : Step.project ∘ Step.carried = Step.project := funext Step.project_carried
  simp [Background.carried, Background.project, steps]

@[simp] theorem Examples.project_carried (examples : Examples) :
    examples.carried.project = examples.project := by
  cases table : examples.table <;>
    simp [Examples.carried, Examples.project, Examples.carriedTable, Table.carried, table]

@[simp] theorem Scenario.project_carried (scenario : Scenario) :
    scenario.carried.project = scenario.project := by
  have steps : Step.project ∘ Step.carried = Step.project := funext Step.project_carried
  have examples : Examples.project ∘ Examples.carried = Examples.project := funext Examples.project_carried
  simp [Scenario.carried, Scenario.project, steps, examples]

@[simp] theorem Feature.children_of_carried (feature : Feature) :
    feature.carried.children = feature.children := by
  cases background : feature.background <;> simp [Feature.carried, Feature.children, background]

@[simp] theorem Feature.project_carried (feature : Feature) :
    feature.carried.project = feature.project := by
  rw [Feature.project, Feature.children_of_carried]
  simp [Feature.carried, Feature.project]

@[simp] theorem Document.project_carried (document : Document) :
    document.carried.project = document.project := by
  cases feature : document.feature <;> simp [Document.carried, Document.project, feature]

/-- Two documents have the same projection exactly if they agree in what is carried. -/
theorem Document.project_same_iff (first second : Document) :
    Same first.project second.project ↔ first.carried = second.carried := by
  constructor
  · exact Document.carries first second
  · intro agree
    rw [← first.project_carried, agree, second.project_carried]
    exact Same.refl second.project

end Gherkin
