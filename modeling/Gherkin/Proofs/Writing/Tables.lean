import Gherkin.Proofs.Table.Writing
import Gherkin.Table.Draft

namespace Gherkin

open Text (SingleLine)

/-!
# Written tables are read back

A table is read line by line, whatever the lines are: each line gives a row, and a
row that does not fit the header is kept like any other.  So the table behind its
written lines has the texts of the cells that were written, for tables with rows of
different lengths or without cells too.
-/

namespace Table

/-! ## Tables of lines -/

/-- The table in progress behind lines that are read one after the other. -/
def Draft.ofLines (lines : List Line) : Option Draft :=
  lines.foldl (fun table line => some (Draft.add table line).1) none

theorem Draft.foldl_add (draft : Draft) (lines : List Line) :
    lines.foldl (fun table line => some (Draft.add table line).1) (some draft) =
      some { draft with rows := (lines.map Row.onLine).reverse ++ draft.rows } := by
  induction lines generalizing draft with
  | nil => rfl
  | cons line rest inductionHypothesis =>
      have added : (Draft.add (some draft) line).1 =
          { draft with rows := Row.onLine line :: draft.rows } := rfl
      rw [List.foldl_cons, added, inductionHypothesis]
      simp

/-- Every line is a row of the table, and the first one is its header. -/
theorem Draft.exists_ofLines {lines : List Line} (present : lines ≠ []) :
    ∃ draft, ofLines lines = some draft ∧ draft.finish.allRows = lines.map Row.onLine := by
  cases lines with
  | nil => exact absurd rfl present
  | cons line rest =>
      refine ⟨⟨Row.onLine line, Row.barLocation line, (rest.map Row.onLine).reverse ++ []⟩, ?_, ?_⟩
      · exact Draft.foldl_add ⟨Row.onLine line, Row.barLocation line, []⟩ rest
      · simp [allRows, finish]

theorem Draft.columns_finish (draft : Draft) : draft.finish.columns = draft.finish.header.values :=
  rfl

/-! ## Written lines -/

theorem values_written {rows : List (List Text)}
    (clean : ∀ values ∈ rows, ∀ value ∈ values, Cell.Clean value) {widths : List Nat}
    (wide : ∀ values ∈ rows, values.length ≤ widths.length) (indent first : Nat) :
    (Line.numberFrom first (rows.map fun values => List.replicate indent ' ' ++
      writtenRow widths (values.map escapeCell))).map (fun line => (Row.onLine line).values) = rows := by
  induction rows generalizing first with
  | nil => rfl
  | cons values rest inductionHypothesis =>
      rw [List.map_cons, Line.numberFrom, List.map_cons,
        Row.values_onLine_writtenRow (clean values List.mem_cons_self) (wide values List.mem_cons_self),
        inductionHypothesis (fun other listed => clean other (List.mem_cons_of_mem _ listed))
          (fun other listed => wide other (List.mem_cons_of_mem _ listed))]

/-- What is written is one line for each row, ended by a newline. -/
theorem fileLines_layout (table : Table) (indent : Nat) :
    fileLines (Text.endLines (table.layout indent)) = table.layout indent := by
  rw [layout_eq]
  refine fileLines_endLines ?_ (head?_endLines ?_)
  · intro text listed
    rcases List.mem_map.mp listed with ⟨values, -, rfl⟩
    exact Text.singleLine_append.mpr ⟨Text.singleLine_margin _, singleLine_writtenRow _ values⟩
  · intro text found marked
    rw [Table.values, allRows, List.map_cons, List.map_cons, List.head?_cons] at found
    cases found
    cases indent <;> cases marked

/-- A table of which no cell starts or ends with whitespace other than newlines is written with
one line for each row, and these lines are read as a table with the same texts in its cells. -/
theorem written_lines_reread (table : Table)
    (clean : ∀ row ∈ table.allRows, ∀ cell ∈ row.cells, Cell.Clean cell.value) (indent first : Nat) :
    fileLines (Text.endLines (table.layout indent)) = table.layout indent ∧
    (table.layout indent).length = table.allRows.length ∧
    ∃ draft, Draft.ofLines (Line.numberFrom first (table.layout indent)) = some draft ∧
      draft.finish.header.values = table.header.values ∧
      draft.finish.rows.map Row.values = table.rows.map Row.values ∧
      draft.finish.columns = table.header.values := by
  have wide : ∀ values ∈ table.values,
      values.length ≤ (widths (table.values.map fun row => row.map escapeCell)).length := by
    intro values listed
    have written := length_le_widths (List.mem_map_of_mem (f := fun row => row.map escapeCell) listed)
    rwa [List.length_map] at written
  have cleanValues : ∀ values ∈ table.values, ∀ value ∈ values, Cell.Clean value := by
    intro values listed value among
    rcases List.mem_map.mp listed with ⟨row, given, rfl⟩
    rcases List.mem_map.mp among with ⟨cell, within, rfl⟩
    exact clean row given cell within
  have present : Line.numberFrom first (table.layout indent) ≠ [] := by
    rw [layout_eq, Table.values, allRows]
    exact List.cons_ne_nil _ _
  rcases Draft.exists_ofLines present with ⟨draft, read, rows⟩
  have same : draft.finish.values = table.values := by
    rw [Table.values, rows, List.map_map, layout_eq]
    exact values_written cleanValues wide indent first
  rcases List.cons.inj same with ⟨header, body⟩
  refine ⟨fileLines_layout table indent, ?_, draft, read, header, body, ?_⟩
  · rw [layout_eq, List.length_map, Table.values, List.length_map]
  · rw [Draft.columns_finish, header]

/-- A table with a row that has no cell, a row that is too long, and cells with bars, backslashes
and newlines at their ends. -/
theorem uneven_table_reread : ∃ table : Table,
    (∀ row ∈ table.allRows, ∀ cell ∈ row.cells, Cell.Clean cell.value) ∧
    table.layout 2 = ["  | a\\|\\\\  |".toList, "  |".toList, "  | \\n b\\n |  |".toList] ∧
    ∃ draft, Draft.ofLines (Line.numberFrom 1 (table.layout 2)) = some draft ∧
      draft.finish.header.values = ["a|\\".toList] ∧
      draft.finish.rows.map Row.values = [[], ["\n b\n".toList, []]] := by
  let table : Table := ⟨[], ⟨[⟨"a|\\".toList, ⟨0, 0⟩⟩], ⟨0, 0⟩⟩,
    [⟨[], ⟨0, 0⟩⟩, ⟨[⟨"\n b\n".toList, ⟨0, 0⟩⟩, ⟨[], ⟨0, 0⟩⟩], ⟨0, 0⟩⟩], ⟨0, 0⟩, none⟩
  have clean : ∀ row ∈ table.allRows, ∀ cell ∈ row.cells, Cell.Clean cell.value := by
    decide
  rcases written_lines_reread table clean 2 1 with ⟨-, -, draft, read, header, rows, -⟩
  exact ⟨table, clean, by decide, draft, read, header, rows⟩

end Table
end Gherkin
