import Gherkin.Proofs.Reading.Refusal

namespace Gherkin

/-!
# Uneven rows

A row with another number of cells than the header above it is kept, and noted as a fault.  The
two are counted against each other here: going through the tables of a document in document
order, the uneven rows are those of the faults, one by one.

A line adds to the tables of a document at their end only, or leaves them as they are.  Behind a
refused line rows go on where they were, and a table is never given up: if a doc-string is opened
behind its rows, the table stays the argument of the step.
-/

/-! ## The tables of a document -/

/-- The rows with another number of cells than the header. -/
def Table.unevenRows (table : Table) : List Row :=
  table.rows.filter fun row => decide (row.cells.length ≠ table.header.cells.length)

def Step.tables (step : Step) : List Table :=
  step.table?.toList

def Background.tables (background : Background) : List Table :=
  background.steps.flatMap Step.tables

def Examples.tables (examples : Examples) : List Table :=
  examples.table.toList

def Scenario.tables (scenario : Scenario) : List Table :=
  scenario.steps.flatMap Step.tables ++ scenario.examples.flatMap Examples.tables

def Feature.tables (feature : Feature) : List Table :=
  (feature.background.map Background.tables).getD [] ++ feature.scenarios.flatMap Scenario.tables

/-- All tables of a document, in document order. -/
def Document.tables (document : Document) : List Table :=
  (document.feature.map Feature.tables).getD []

/-! ## The places of uneven rows -/

/-- The places of the uneven rows of some tables. -/
def Table.unevenPlaces (tables : List Table) : List Location :=
  (tables.flatMap unevenRows).map Row.location

/-- The places at which rows were noted as uneven. -/
def Fault.unevenPlaces (faults : List Fault) : List Location :=
  (faults.filter fun fault => decide (fault.cause = .unevenRow)).map Fault.location

@[simp] theorem Table.unevenPlaces_append (tables others : List Table) :
    unevenPlaces (tables ++ others) = unevenPlaces tables ++ unevenPlaces others := by
  simp [unevenPlaces]

@[simp] theorem Fault.unevenPlaces_append (faults others : List Fault) :
    unevenPlaces (faults ++ others) = unevenPlaces faults ++ unevenPlaces others := by
  simp [unevenPlaces]

/-- The faults name exactly the uneven rows that were added to the tables. -/
def Table.Accounted (before : List Table) (faults : List Fault) (after : List Table) : Prop :=
  unevenPlaces after = unevenPlaces before ++ Fault.unevenPlaces faults

namespace Table

variable {before between after : List Table} {faults others : List Fault}

theorem accounted_self (tables : List Table) (level : Fault.unevenPlaces faults = []) :
    Accounted tables faults tables := by
  rw [Accounted, level, List.append_nil]

theorem Accounted.append_left (accounted : Accounted before faults after) (front : List Table) :
    Accounted (front ++ before) faults (front ++ after) := by
  rw [Accounted, unevenPlaces_append, unevenPlaces_append, accounted, List.append_assoc]

theorem Accounted.trans (first : Accounted before faults between) (second : Accounted between others after) :
    Accounted before (faults ++ others) after := by
  rw [Accounted, second, first, Fault.unevenPlaces_append, List.append_assoc]

end Table

/-! ## What a line adds to the tables -/

theorem Tag.unevenPlaces_faultsOnLine (line : Line) : Fault.unevenPlaces (faultsOnLine line) = [] := by
  refine List.map_eq_nil_iff.mpr (List.filter_eq_nil_iff.mpr ?_)
  intro fault noted
  rcases List.mem_filterMap.mp noted with ⟨piece, -, found⟩
  split at found <;> cases found
  simp

namespace Table.Draft

theorem accounted_add (table : Option Draft) (line : Line) :
    Accounted (table.map finish).toList (add table line).2 [(add table line).1.finish] := by
  cases table with
  | none => rfl
  | some draft =>
      by_cases even : (Row.onLine line).cells.length = draft.header.cells.length <;>
        simp [Accounted, unevenPlaces, unevenRows, add, finish, Fault.unevenPlaces, even]

end Table.Draft

namespace Step.Draft

/-- A step that has rows keeps them as its table, whatever else was begun. -/
theorem tables_finish (step : Draft) : step.finish.tables = (step.table.map Table.Draft.finish).toList := by
  unfold Step.tables Step.table? finish argument
  cases step.table <;> cases step.docString <;> rfl

theorem tables_of_onLine? {dialect : Dialect} {line : Line} {start : Draft}
    (starts : onLine? dialect line = some start) : start.finish.tables = [] := by
  rw [onLine?_of_role (exists_role_of_onLine? starts), Option.some.injEq] at starts
  rw [← starts, tables_finish]
  rfl

end Step.Draft

namespace Step.Sequence

/-- The tables of the steps read so far. -/
def tables (steps : Sequence) : List Table :=
  steps.finish.flatMap Step.tables

@[simp] theorem tables_cons (step : Draft) (earlier : Sequence) :
    tables (step :: earlier) = tables earlier ++ step.finish.tables := by
  simp [tables, finish]

end Step.Sequence

namespace Body.Draft

variable {dialect : Dialect} {line : Line} {body next : Body.Draft} {faults : List Fault}

theorem Takes.accounted (taken : Takes dialect line body next faults) :
    Table.Accounted body.steps.tables faults next.steps.tables := by
  cases taken with
  | content steps unfinished isOpen =>
      rw [steps, Step.Sequence.tables_cons, Step.Sequence.tables_cons, Step.Draft.tables_finish,
        Step.Draft.tables_finish]
      exact Table.accounted_self _ rfl
  | step outside starts =>
      rw [Step.Sequence.tables_cons, Step.Draft.tables_of_onLine? starts, List.append_nil]
      exact Table.accounted_self _ rfl
  | row steps free role unmarked =>
      rw [steps, Step.Sequence.tables_cons, Step.Sequence.tables_cons, Step.Draft.tables_finish,
        Step.Draft.tables_finish]
      exact (Table.Draft.accounted_add _ line).append_left _
  | opening steps free silent admitted opens =>
      rw [steps, Step.Sequence.tables_cons, Step.Sequence.tables_cons, Step.Draft.tables_finish,
        Step.Draft.tables_finish]
      exact Table.accounted_self _ rfl
  | blank => exact Table.accounted_self _ rfl
  | description => exact Table.accounted_self _ rfl

/-- A line of an open doc-string is no row. -/
theorem Takes.tables_of_inDocString (taken : Takes dialect line body next faults)
    (inside : body.inDocString = true) : next.steps.tables = body.steps.tables ∧ faults = [] := by
  cases taken with
  | content steps unfinished isOpen =>
      rw [steps, Step.Sequence.tables_cons, Step.Sequence.tables_cons, Step.Draft.tables_finish,
        Step.Draft.tables_finish]
      exact ⟨rfl, rfl⟩
  | step outside => exact absurd (outside.symm.trans inside) nofun
  | row steps free | opening steps free =>
      rw [inDocString_of_steps steps, Step.Draft.inDocString_of_free free] at inside
      cases inside
  | blank => exact ⟨rfl, rfl⟩
  | description => exact ⟨rfl, rfl⟩

end Body.Draft

namespace Examples.Draft

theorem accounted_of_add {dialect : Dialect} {line : Line} {block next : Examples.Draft}
    {faults : List Fault} (taken : block.add dialect line = .ok (next, faults)) :
    Table.Accounted block.finish.tables faults next.finish.tables := by
  simp only [add] at taken
  split_ifs at taken with role begun white steps
  · cases taken
    exact Table.Draft.accounted_add block.table line
  · cases taken
    exact Table.accounted_self _ rfl
  · cases taken
    exact Table.accounted_self _ rfl

end Examples.Draft

namespace Scenario.Draft

theorem tables_finish (scenario : Scenario.Draft) :
    scenario.finish.tables =
      scenario.body.steps.tables ++ scenario.examples.reverse.flatMap fun block => block.finish.tables := by
  simp only [finish, Scenario.tables, Step.Sequence.tables, List.flatMap_map]

theorem tables_finish_of_examples {scenario : Scenario.Draft} {block : Examples.Draft}
    {blocks : List Examples.Draft} (examples : scenario.examples = block :: blocks) :
    scenario.finish.tables =
      ({ scenario with examples := blocks } : Scenario.Draft).finish.tables ++ block.finish.tables := by
  simp [tables_finish, examples]

theorem accounted_body {dialect : Dialect} {line : Line} {scenario : Scenario.Draft} {body : Body.Draft}
    {faults : List Fault} (inBody : scenario.inDocString = true ∨ scenario.examples = [])
    (taken : Body.Draft.Takes dialect line scenario.body body faults) :
    Table.Accounted scenario.finish.tables faults
      ({ scenario with body := body } : Scenario.Draft).finish.tables := by
  rw [tables_finish, tables_finish]
  rcases inBody with inside | none
  · rcases taken.tables_of_inDocString inside with ⟨same, quiet⟩
    rw [same, quiet]
    exact Table.accounted_self _ rfl
  · simpa [none] using taken.accounted

end Scenario.Draft

namespace Feature.Draft

variable {dialect : Dialect} {line : Line} {feature next : Feature.Draft} {faults : List Fault}

/-- The tables of the feature read so far.  The code of its language has no part in them. -/
def tables (feature : Feature.Draft) : List Table :=
  (feature.finish []).tables

theorem tables_finish (code : Text) (feature : Feature.Draft) :
    (feature.finish code).tables = feature.tables :=
  rfl

theorem tables_eq (feature : Feature.Draft) :
    feature.tables = (feature.background.map fun background => background.body.steps.tables).getD [] ++
      feature.scenarios.reverse.flatMap fun scenario => scenario.finish.tables := by
  simp only [tables, finish, Feature.tables, List.flatMap_map, Option.map_map, Function.comp_def]
  rfl

theorem tables_of_scenarios {scenario : Scenario.Draft} {earlier : List Scenario.Draft}
    (scenarios : feature.scenarios = scenario :: earlier) :
    feature.tables =
      ({ feature with scenarios := earlier } : Feature.Draft).tables ++ scenario.finish.tables := by
  simp [tables_eq, scenarios]

theorem Takes.accounted (taken : Takes dialect line feature next faults) :
    Table.Accounted feature.tables faults next.tables := by
  cases taken with
  | @scenario scenario earlier body _ scenarios inBody taken =>
      have after : ({ feature with
          scenarios := { scenario with body := body } :: earlier } : Feature.Draft).tables = _ :=
        tables_of_scenarios rfl
      rw [tables_of_scenarios scenarios, after]
      exact (Scenario.Draft.accounted_body inBody taken).append_left _
  | @examples scenario earlier block later blocks _ scenarios outside examples taken =>
      have after : ({ feature with
          scenarios := { scenario with examples := later :: blocks } :: earlier } :
            Feature.Draft).tables = _ := tables_of_scenarios rfl
      have inScenario : ({ scenario with examples := later :: blocks } : Scenario.Draft).finish.tables = _ :=
        Scenario.Draft.tables_finish_of_examples rfl
      rw [tables_of_scenarios scenarios, after, inScenario,
        Scenario.Draft.tables_finish_of_examples examples]
      exact ((Examples.Draft.accounted_of_add taken).append_left _).append_left _
  | background scenarios present taken => simpa [tables_eq, scenarios, present] using taken.accounted
  | description => exact Table.accounted_self _ rfl

end Feature.Draft

namespace Document.Draft

variable {settings : Settings} {dialect : Dialect} {line : Line} {draft next : Draft} {faults : List Fault}

/-- The tables of the document read so far. -/
def tables (draft : Draft) : List Table :=
  (draft.feature.map Feature.Draft.tables).getD []

theorem tables_finish (uri : Text) (draft : Draft) : (draft.finish uri).tables = draft.tables := by
  simp only [finish, Document.tables, tables, Option.map_map, Function.comp_def, Feature.Draft.tables_finish]

theorem tables_of_feature {feature : Feature.Draft} (present : draft.feature = some feature) :
    draft.tables = feature.tables := by
  rw [tables, present, Option.map_some, Option.getD_some]

/-- Opening a construct adds no table. -/
theorem accounted_of_opened {feature : Feature.Draft} (same : feature.tables = draft.tables) :
    Table.Accounted draft.tables [] (draft.withFeature feature).tables := by
  have opened : (draft.withFeature feature).tables = feature.tables := rfl
  rw [opened, same]
  exact Table.accounted_self _ rfl

theorem Takes.accounted (taken : Takes dialect line draft next faults) :
    Table.Accounted draft.tables faults next.tables := by
  cases taken with
  | comment => exact Table.accounted_self _ rfl
  | tag => exact Table.accounted_self _ (Tag.unevenPlaces_faultsOnLine line)
  | blank => exact Table.accounted_self _ rfl
  | feature outside role absent =>
      apply accounted_of_opened
      rw [tables, absent]
      rfl
  | background outside role present unclaimed inHeader =>
      apply accounted_of_opened
      rw [Feature.Draft.inHeader_iff] at inHeader
      simp [tables_of_feature present, Feature.Draft.tables_eq, inHeader]
      rfl
  | scenario outside role present =>
      apply accounted_of_opened
      rw [tables_of_feature present, Feature.Draft.tables_of_scenarios rfl]
      exact List.append_nil _
  | examples outside role present scenarios isOutline =>
      apply accounted_of_opened
      rw [tables_of_feature present, Feature.Draft.tables_of_scenarios rfl,
        Feature.Draft.tables_of_scenarios scenarios, Scenario.Draft.tables_finish_of_examples rfl]
      exact congrArg _ (List.append_nil _)
  | inner present routed taken =>
      rw [tables_of_feature present]
      exact taken.accounted

theorem Adds.accounted (adds : Adds settings line draft next faults) :
    Table.Accounted draft.tables faults next.tables := by
  cases adds with
  | chosen => exact Table.accounted_self _ rfl
  | unknown => exact Table.accounted_self _ rfl
  | taken undirected taken => exact taken.accounted
  | refused => exact Table.accounted_self _ rfl

/-- Over all lines together, what is noted and what is kept is the same. -/
theorem accounted_addAll (settings : Settings) (draft : Draft) (lines : List Line) :
    Table.Accounted draft.tables (draft.addAll settings lines).2 (draft.addAll settings lines).1.tables := by
  induction lines generalizing draft with
  | nil => exact Table.accounted_self _ rfl
  | cons line rest inductionHypothesis =>
      exact (adds_add settings draft line).accounted.trans (inductionHypothesis _)

theorem unevenPlaces_endFaults (draft : Draft) : Fault.unevenPlaces draft.endFaults = [] := by
  unfold endFaults
  split_ifs <;> rfl

end Document.Draft

/-! ## Tables without uneven rows -/

/-- The columns of a table are the texts of its header. -/
def Table.Headed (table : Table) : Prop :=
  table.columns = table.header.values

theorem Step.Sequence.headed_of_mem_tables {steps : Step.Sequence} :
    ∀ table ∈ steps.tables, table.Headed := by
  intro table listed
  rcases List.mem_flatMap.mp listed with ⟨step, finished, inStep⟩
  rcases List.mem_map.mp finished with ⟨draft, -, rfl⟩
  rw [Step.Draft.tables_finish, Option.mem_toList] at inStep
  rcases Option.map_eq_some_iff.mp inStep with ⟨rows, -, rfl⟩
  rfl

theorem Scenario.Draft.headed_of_mem_tables {scenario : Scenario.Draft} :
    ∀ table ∈ scenario.finish.tables, table.Headed := by
  intro table listed
  rw [tables_finish, List.mem_append] at listed
  rcases listed with inSteps | inExamples
  · exact Step.Sequence.headed_of_mem_tables table inSteps
  · rcases List.mem_flatMap.mp inExamples with ⟨block, -, inBlock⟩
    rcases Option.map_eq_some_iff.mp (Option.mem_toList.mp inBlock) with ⟨rows, -, rfl⟩
    rfl

theorem Feature.Draft.headed_of_mem_tables {feature : Feature.Draft} :
    ∀ table ∈ feature.tables, table.Headed := by
  intro table listed
  rw [tables_eq, List.mem_append] at listed
  rcases listed with inBackground | inScenarios
  · cases present : feature.background with
    | none =>
        rw [present] at inBackground
        exact absurd inBackground List.not_mem_nil
    | some background =>
        rw [present] at inBackground
        exact Step.Sequence.headed_of_mem_tables table inBackground
  · rcases List.mem_flatMap.mp inScenarios with ⟨scenario, -, inScenario⟩
    exact Scenario.Draft.headed_of_mem_tables table inScenario

theorem Document.Draft.headed_of_mem_tables {draft : Document.Draft} :
    ∀ table ∈ draft.tables, table.Headed := by
  intro table listed
  cases present : draft.feature with
  | none =>
      rw [tables, present] at listed
      exact absurd listed List.not_mem_nil
  | some feature =>
      rw [tables_of_feature present] at listed
      exact Feature.Draft.headed_of_mem_tables table listed

/-- Without uneven rows, all rows of a table have as many cells as it has columns. -/
theorem Table.length_cells_of_even {table : Table} (headed : table.Headed) (even : table.unevenRows = []) :
    ∀ row ∈ table.allRows, row.cells.length = table.columns.length := by
  have columns : table.columns.length = table.header.cells.length := by
    rw [headed, Row.values, List.length_map]
  intro row listed
  rw [columns]
  rcases List.mem_cons.mp listed with rfl | below
  · rfl
  · simpa using List.filter_eq_nil_iff.mp even row below

/-- The rows noted as uneven are the uneven rows of the tables, each noted once and at its place,
in document order.  So the tables of an accepted document have none, and all their rows have as
many cells as there are columns. -/
theorem uneven_rows_accounted (settings : Settings) (uri : Text) (texts : List Text) :
    Fault.unevenPlaces (readDocument settings uri (Line.numberFrom 1 texts)).2.faults =
        Table.unevenPlaces (readDocument settings uri (Line.numberFrom 1 texts)).1.tables ∧
      ∀ document, parseLines settings uri texts = .ok document →
        ∀ table ∈ document.tables, ∀ row ∈ table.allRows,
          row.cells.length = table.columns.length := by
  have accounted := Document.Draft.accounted_addAll settings (.empty settings) (Line.numberFrom 1 texts)
  have noted : Fault.unevenPlaces (readDocument settings uri (Line.numberFrom 1 texts)).2.faults =
      Table.unevenPlaces (readDocument settings uri (Line.numberFrom 1 texts)).1.tables := by
    simp only [readDocument_eq, Report.add, Report.empty, List.nil_append, Fault.unevenPlaces_append,
      Document.Draft.unevenPlaces_endFaults, List.append_nil, Document.Draft.tables_finish]
    exact accounted.symm
  refine ⟨noted, fun document accepted table listed => ?_⟩
  obtain ⟨faultless, rfl⟩ := Report.outcome_eq_ok_iff.mp accepted
  have level : Table.unevenPlaces (readDocument settings uri (Line.numberFrom 1 texts)).1.tables = [] := by
    rw [← noted, faultless]
    rfl
  have even := List.flatMap_eq_nil_iff.mp (List.map_eq_nil_iff.mp level) table listed
  have headed : table.Headed := by
    rw [readDocument_eq, Document.Draft.tables_finish] at listed
    exact Document.Draft.headed_of_mem_tables table listed
  exact Table.length_cells_of_even headed even

/-- A step's table goes on behind a blank line, and that of an examples block follows it. -/
theorem outline_tables_rectangular :
    parseLines .standard [] (["Feature: f", "Scenario Outline: s", "Given x", "| a | b |", "",
        "| 1 | 2 |", "Examples:", "| c |", "| 3 |"].map String.toList) =
      .ok (readDocument .standard [] (Line.numberFrom 1 (["Feature: f", "Scenario Outline: s", "Given x",
        "| a | b |", "", "| 1 | 2 |", "Examples:", "| c |", "| 3 |"].map String.toList))).1 ∧
    ∀ table ∈ (readDocument .standard [] (Line.numberFrom 1 (["Feature: f", "Scenario Outline: s",
        "Given x", "| a | b |", "", "| 1 | 2 |", "Examples:", "| c |",
        "| 3 |"].map String.toList))).1.tables,
      ∀ row ∈ table.allRows, row.cells.length = table.columns.length := by
  have accepted : parseLines .standard [] (["Feature: f", "Scenario Outline: s", "Given x", "| a | b |",
      "", "| 1 | 2 |", "Examples:", "| c |", "| 3 |"].map String.toList) =
        .ok (readDocument .standard [] (Line.numberFrom 1 (["Feature: f", "Scenario Outline: s",
          "Given x", "| a | b |", "", "| 1 | 2 |", "Examples:", "| c |", "| 3 |"].map String.toList))).1 :=
    Report.outcome_eq_ok_iff.mpr ⟨by decide +kernel, rfl⟩
  exact ⟨accepted, (uneven_rows_accounted .standard [] _).2 _ accepted⟩

end Gherkin
