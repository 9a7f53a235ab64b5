import Gherkin.Proofs.Table.Writing
import Mathlib.Data.List.Forall2

namespace Gherkin
namespace Table

/-!
# Written tables are aligned

The width of a column is that of its widest cell, counted in the characters that are written.
So no cell is wider than its column, and the padding behind it is exactly the difference.  A row
that is longer than others is written as a whole, because there is a column for each of its
cells.

The bar behind a cell then stands at an offset that depends on the widths of the columns up to
this one and on nothing else in the row.
-/

variable {rows : List (List Text)} {row : List Text} {columns : List Nat} {indent : Nat}

/-! ## Columns and their widths -/

theorem getElem?_widest (columns others : List Nat) (position : Nat) :
    (widest columns others)[position]? = Option.merge max columns[position]? others[position]? := by
  induction columns generalizing others position with
  | nil => cases position <;> simp [widest]
  | cons column columns inductionHypothesis =>
      cases others with
      | nil => simp [widest]
      | cons other others => cases position <;> simp [widest, inductionHypothesis]

/-- Every cell of a row has a column, and is no wider than it. -/
def Fit (columns : List Nat) (row : List Text) : Prop :=
  ∀ (position : Nat) (cell : Text), row[position]? = some cell →
    ∃ width, columns[position]? = some width ∧ cell.length ≤ width

/-- The cells of all rows fit the columns that are made for them. -/
theorem fit_widths (listed : row ∈ rows) : Fit (widths rows) row := by
  intro position cell found
  induction rows with
  | nil => cases listed
  | cons first rest inductionHypothesis =>
      have columns : (widths (first :: rest))[position]? =
          Option.merge max (first.map List.length)[position]? (widths rest)[position]? :=
        getElem?_widest _ _ position
      rw [columns]
      rcases List.mem_cons.mp listed with rfl | listed
      · rw [List.getElem?_map, found]
        cases (widths rest)[position]? with
        | none => exact ⟨cell.length, rfl, le_rfl⟩
        | some width => exact ⟨max cell.length width, rfl, le_max_left _ _⟩
      · rcases inductionHypothesis listed with ⟨width, present, fits⟩
        rw [present]
        cases (first.map List.length)[position]? with
        | none => exact ⟨width, rfl, fits⟩
        | some other => exact ⟨max other width, rfl, fits.trans (le_max_right _ _)⟩

theorem Fit.tail {width : Nat} {cell : Text} (fit : Fit (width :: columns) (cell :: row)) :
    Fit columns row :=
  fun position other found => fit (position + 1) other found

theorem Fit.exists_cons {cell : Text} (fit : Fit columns (cell :: row)) :
    ∃ width rest, columns = width :: rest ∧ cell.length ≤ width := by
  rcases fit 0 cell rfl with ⟨width, present, fits⟩
  cases columns with
  | nil => cases present
  | cons first rest => exact ⟨first, rest, rfl, (Option.some.inj present) ▸ fits⟩

/-! ## Where bars stand -/

/-- The offset of the bar behind the first `count` cells of a row, where the bar in front of all
cells stands at `first`. -/
def barOffset (first : Nat) : List Nat → Nat → Nat
  | _, 0 => first
  | [], _ + 1 => first
  | width :: rest, count + 1 => barOffset (first + width + 3) rest count

theorem length_closedCell {width : Nat} {cell : Text} (fits : cell.length ≤ width) :
    (closedCell width cell).length = width + 3 := by
  simp only [closedCell, List.length_append, List.length_replicate, List.length_cons, List.length_nil]
  omega

theorem length_zipWith_closedCell (fit : Fit columns row) :
    (List.zipWith closedCell columns row).length = row.length := by
  induction row generalizing columns with
  | nil => simp
  | cons cell row inductionHypothesis =>
      rcases fit.exists_cons with ⟨width, rest, rfl, -⟩
      rw [List.zipWith_cons_cons, List.length_cons, inductionHypothesis fit.tail, List.length_cons]

/-- The first cells of a row are as long as their columns, whatever their texts are. -/
theorem length_flatten_take_closedCells (fit : Fit columns row) {count : Nat}
    (present : count ≤ row.length) (first : Nat) :
    first + ((List.zipWith closedCell columns row).take count).flatten.length =
      barOffset first columns count := by
  induction row generalizing columns count first with
  | nil =>
      rw [Nat.le_zero.mp present]
      cases columns <;> rfl
  | cons cell row inductionHypothesis =>
      rcases fit.exists_cons with ⟨width, rest, rfl, fits⟩
      cases count with
      | zero => rfl
      | succ count =>
          have behind := inductionHypothesis fit.tail (Nat.le_of_succ_le_succ present)
            (first + width + 3)
          rw [List.zipWith_cons_cons, List.take_succ_cons, List.flatten_cons, List.length_append,
            length_closedCell fits, barOffset, ← behind]
          omega

/-! ## Aligned lines -/

/-- The line of a row is aligned to columns.  The pieces are the cells as they are written, each
with the bar that closes it. -/
structure Aligned (indent : Nat) (columns : List Nat) (values : List Text) (line : Text)
    (pieces : List Text) : Prop where
  /-- The pieces stand behind the first bar, and nothing else does. -/
  line_eq : line = List.replicate indent ' ' ++ ['|'] ++ pieces.flatten
  /-- There is a piece for each cell. -/
  complete : pieces.length = values.length
  /-- Each cell is padded to the width of its column, which it does not exceed. -/
  padded : ∀ (position : Nat) (value : Text), values[position]? = some value →
    ∃ width padding, columns[position]? = some width ∧
      (escapeCell value).length + padding = width ∧
      pieces[position]? =
        some ([' '] ++ escapeCell value ++ List.replicate padding ' ' ++ [' ', '|'])
  /-- The last bar of the first pieces stands where the columns say. -/
  closed : ∀ count ≤ values.length,
    (List.replicate indent ' ' ++ ['|'] ++ (pieces.take count).flatten).length =
      barOffset indent columns count + 1

/-- The widths of the columns of a table. -/
def columnWidths (table : Table) : List Nat :=
  widths (table.values.map fun row => row.map escapeCell)

/-- A row whose written cells fit is written on an aligned line. -/
theorem Fit.aligned {values : List Text} (fit : Fit columns (values.map escapeCell)) (indent : Nat) :
    Aligned indent columns values
      (List.replicate indent ' ' ++ writtenRow columns (values.map escapeCell))
      (List.zipWith closedCell columns (values.map escapeCell)) where
  line_eq := (List.append_assoc _ _ _).symm
  complete := (length_zipWith_closedCell fit).trans (List.length_map _)
  padded := by
    intro position value found
    have cell : (values.map escapeCell)[position]? = some (escapeCell value) := by
      rw [List.getElem?_map, found, Option.map_some]
    rcases fit position (escapeCell value) cell with ⟨width, present, fits⟩
    refine ⟨width, width - (escapeCell value).length, present, Nat.add_sub_cancel' fits, ?_⟩
    rw [List.getElem?_zipWith, present, cell]
    rfl
  closed := by
    intro count present
    have first : count ≤ (values.map escapeCell).length := present.trans_eq (List.length_map _).symm
    rw [← length_flatten_take_closedCells fit first, List.length_append, List.length_append,
      List.length_replicate, List.length_singleton]
    omega

/-- An aligned line ends with the bar behind its last cell. -/
theorem Aligned.length_line {values pieces : List Text} {line : Text}
    (aligned : Aligned indent columns values line pieces) :
    line.length = barOffset indent columns values.length + 1 := by
  rw [← aligned.closed values.length le_rfl, ← aligned.complete, List.take_length, ← aligned.line_eq]

/-- The lines of a table are aligned to its columns, whatever the lengths of its rows.  If all
rows are as long as the header, all lines have the same length. -/
theorem layout_aligned (table : Table) (indent : Nat) :
    List.Forall₂ (fun values line => ∃ pieces, Aligned indent table.columnWidths values line pieces)
      table.values (table.layout indent) ∧
    ((∀ row ∈ table.rows, row.cells.length = table.header.cells.length) →
      ∀ line ∈ table.layout indent,
        line.length = barOffset indent table.columnWidths table.header.cells.length + 1) := by
  have fit : ∀ values ∈ table.values, Fit table.columnWidths (values.map escapeCell) :=
    fun values listed => fit_widths (List.mem_map_of_mem listed)
  constructor
  · rw [layout_eq, List.forall₂_map_right_iff]
    exact List.forall₂_same.mpr fun values listed => ⟨_, (fit values listed).aligned indent⟩
  · intro even line listed
    rw [layout_eq] at listed
    rcases List.mem_map.mp listed with ⟨values, among, rfl⟩
    rcases List.mem_map.mp among with ⟨row, within, rfl⟩
    have cells : row.cells.length = table.header.cells.length := by
      rcases List.mem_cons.mp within with rfl | below
      · rfl
      · exact even row below
    have whole := ((fit _ among).aligned indent).length_line
    rwa [Row.values, List.length_map, cells] at whole

end Table
end Gherkin
