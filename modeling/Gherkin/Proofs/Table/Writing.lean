import Gherkin.Layout.Table
import Gherkin.Proofs.Text.Lines
import Gherkin.Table.Row

namespace Gherkin

open Text (isSpace isBlank SingleLine)

/-!
# Written rows are read back

A cell can hold any text, but not every text comes back from a file: whitespace
at the ends of a cell is lost, unless it is a newline, for which an escape
stands.  Texts without such whitespace are exactly those that reading gives, and
they come back from a written row, whatever the widths of its columns.
-/

/-- Whether a character is kept even at the ends of a cell. -/
def CellDraft.stays (character : Char) : Bool :=
  !isSpace character || character == '\n'

/-- A text of a cell that neither starts nor ends with whitespace that is dropped. -/
def Cell.Clean (value : Text) : Prop :=
  (∀ first ∈ value.head?, CellDraft.stays first = true) ∧
    ∀ last ∈ value.getLast?, CellDraft.stays last = true

instance Cell.cleanDecidable (value : Text) : Decidable (Cell.Clean value) :=
  @instDecidableAnd _ _ (Option.decidableForallMem value.head?) (Option.decidableForallMem value.getLast?)

namespace CellDraft

/-! ## What is read is clean -/

/-- The text kept so far is present and starts and ends with characters that stay. -/
def Clean : CellDraft → Prop
  | blank => True
  | text _ kept _ =>
    (∃ last, kept.head? = some last ∧ stays last = true) ∧
      ∃ first, kept.getLast? = some first ∧ stays first = true

variable {draft : CellDraft} {offset : Nat} {character : Char}

theorem Clean.keep (clean : draft.Clean) (staying : stays character = true) :
    (draft.keep offset character).Clean := by
  cases draft with
  | blank => exact ⟨⟨character, rfl, staying⟩, ⟨character, rfl, staying⟩⟩
  | text start kept aside =>
      rcases clean with ⟨-, first, found, starting⟩
      refine ⟨⟨character, rfl, staying⟩, first, ?_, starting⟩
      rw [← found, List.getLast?_cons, List.getLast?_append, found]
      rfl

theorem stays_of_solid (solid : isSpace character = false) : stays character = true := by
  simp [stays, solid]

theorem Clean.add (clean : draft.Clean) : (draft.add offset character).Clean := by
  unfold CellDraft.add
  cases space : isSpace character with
  | false => exact clean.keep (stays_of_solid space)
  | true =>
      cases draft with
      | blank => exact clean
      | text => exact clean

theorem stays_of_escaped? {meant : Char} (escaped : escaped? character = some meant) :
    stays meant = true := by
  simp only [escaped?] at escaped
  split_ifs at escaped <;> cases escaped <;> decide

theorem Clean.addEscape (clean : draft.Clean) : (draft.addEscape offset character).Clean := by
  unfold CellDraft.addEscape
  cases escaped : escaped? character with
  | some meant => exact clean.keep (stays_of_escaped? escaped)
  | none =>
      have mark : stays '\\' = true := by decide
      exact (clean.keep mark).add

theorem Clean.finish (clean : draft.Clean) (line : Line) (closing : Nat) :
    Cell.Clean (draft.finish line closing).value := by
  cases draft with
  | blank => exact ⟨nofun, nofun⟩
  | text start kept aside =>
      rcases clean with ⟨⟨last, foundLast, ending⟩, first, foundFirst, starting⟩
      constructor
      · intro other found
        rw [CellDraft.finish, List.head?_reverse, foundFirst] at found
        cases found
        exact starting
      · intro other found
        rw [CellDraft.finish, List.getLast?_reverse, foundLast] at found
        cases found
        exact ending

end CellDraft

namespace Row

variable {line : Line} {draft : CellDraft} {offset : Nat}

/-! ## What the reader does with a character -/

theorem cellsFrom_bar (line : Line) (draft : CellDraft) (offset : Nat) (rest : Text) :
    cellsFrom line draft offset ('|' :: rest) =
      draft.finish line offset :: cellsFrom line .blank (offset + 1) rest := by
  rw [cellsFrom.eq_def]
  simp

theorem cellsFrom_escape (line : Line) (draft : CellDraft) (offset : Nat) (second : Char)
    (others : Text) :
    cellsFrom line draft offset ('\\' :: second :: others) =
      cellsFrom line (draft.addEscape offset second) (offset + 2) others := by
  rw [cellsFrom.eq_def]
  simp

theorem cellsFrom_other {first : Char} (noBar : first ≠ '|') (noEscape : first ≠ '\\')
    (line : Line) (draft : CellDraft) (offset : Nat) (rest : Text) :
    cellsFrom line draft offset (first :: rest) =
      cellsFrom line (draft.add offset first) (offset + 1) rest := by
  rw [cellsFrom.eq_def]
  simp [noBar, noEscape]

theorem clean_of_mem_cellsFrom {text : Text} (clean : draft.Clean) :
    ∀ cell ∈ cellsFrom line draft offset text, Cell.Clean cell.value := by
  induction draft, offset, text using cellsFrom.induct with
  | case1 draft offset => simp [cellsFrom]
  | case2 draft offset rest inductionHypothesis =>
      intro cell listed
      rw [cellsFrom_bar] at listed
      rcases List.mem_cons.mp listed with rfl | listed
      · exact clean.finish line offset
      · exact inductionHypothesis True.intro cell listed
  | case3 draft offset => simp [cellsFrom]
  | case4 draft offset second others _ inductionHypothesis =>
      rw [cellsFrom_escape]
      exact inductionHypothesis clean.addEscape
  | case5 draft offset first rest noBar noEscape inductionHypothesis =>
      rw [cellsFrom_other noBar noEscape]
      exact inductionHypothesis clean.add

/-- The cells of a line are clean. -/
theorem clean_of_mem_cellsOnLine {cell : Cell} (listed : cell ∈ cellsOnLine line) :
    Cell.Clean cell.value := by
  unfold cellsOnLine at listed
  split at listed
  · cases listed
  · have clean : CellDraft.blank.Clean := True.intro
    exact clean_of_mem_cellsFrom clean cell listed

/-! ## Reading a written cell -/

theorem cellsFrom_escapeCharacter (line : Line) (draft : CellDraft) (offset : Nat) (character : Char)
    (rest : Text) :
    ∃ later, cellsFrom line draft offset (Table.escapeCharacter character ++ rest) =
      cellsFrom line
        (if CellDraft.stays character then draft.keep offset character
          else draft.add offset character) later rest := by
  by_cases backslash : character = '\\'
  · subst backslash
    exact ⟨_, cellsFrom_escape line draft offset '\\' rest⟩
  by_cases bar : character = '|'
  · subst bar
    exact ⟨_, cellsFrom_escape line draft offset '|' rest⟩
  by_cases newline : character = '\n'
  · subst newline
    exact ⟨_, cellsFrom_escape line draft offset 'n' rest⟩
  · have plain : Table.escapeCharacter character = [character] := by
      simp [Table.escapeCharacter, backslash, bar, newline]
    refine ⟨offset + 1, ?_⟩
    rw [plain, List.singleton_append, cellsFrom_other bar backslash]
    cases space : isSpace character <;>
      simp [CellDraft.stays, CellDraft.add, space, newline]

/-- A character that follows the text of a cell is kept or set aside.  It is set aside only if it
does not stay. -/
private theorem exists_text_of_character (start : Nat) (kept aside : Text) (offset : Nat)
    (character : Char) :
    ∃ keptNext asideNext,
      (if CellDraft.stays character then (CellDraft.text start kept aside).keep offset character
        else (CellDraft.text start kept aside).add offset character) =
          .text start keptNext asideNext ∧
      asideNext ++ keptNext = character :: (aside ++ kept) ∧
      (CellDraft.stays character = true → asideNext = []) := by
  cases staying : CellDraft.stays character with
  | true => exact ⟨character :: (aside ++ kept), [], rfl, rfl, fun _ => rfl⟩
  | false =>
      have space : isSpace character = true := by
        cases solid : isSpace character with
        | true => rfl
        | false =>
            rw [CellDraft.stays_of_solid solid] at staying
            cases staying
      refine ⟨kept, character :: aside, ?_, rfl, nofun⟩
      simp [CellDraft.add, space]

/-- Behind a text that was begun, every character is either kept or set aside, and nothing
stays aside once a character stays. -/
theorem cellsFrom_escapeCell (line : Line) (start : Nat) (kept aside : Text) (offset : Nat)
    (value rest : Text) :
    ∃ later keptLater asideLater,
      cellsFrom line (.text start kept aside) offset (Table.escapeCell value ++ rest) =
        cellsFrom line (.text start keptLater asideLater) later rest ∧
      asideLater ++ keptLater = value.reverse ++ (aside ++ kept) ∧
      ((value = [] ∧ asideLater = aside) ∨
        ∃ last, value.getLast? = some last ∧ (CellDraft.stays last = true → asideLater = [])) := by
  induction value generalizing kept aside offset with
  | nil => exact ⟨offset, kept, aside, rfl, rfl, .inl ⟨rfl, rfl⟩⟩
  | cons first others inductionHypothesis =>
      rcases cellsFrom_escapeCharacter line (.text start kept aside) offset first
        (Table.escapeCell others ++ rest) with ⟨next, readFirst⟩
      have split : Table.escapeCell (first :: others) ++ rest =
          Table.escapeCharacter first ++ (Table.escapeCell others ++ rest) := by
        simp [Table.escapeCell]
      rw [split, readFirst]
      rcases exists_text_of_character start kept aside offset first with
        ⟨keptNext, asideNext, same, text, emptied⟩
      rw [same]
      rcases inductionHypothesis keptNext asideNext next with
        ⟨later, keptLater, asideLater, readOthers, joined, ending⟩
      refine ⟨later, keptLater, asideLater, readOthers, ?_, .inr ?_⟩
      · rw [joined, text, List.reverse_cons, List.append_assoc, List.singleton_append]
      · rcases ending with ⟨rfl, rfl⟩ | ⟨last, found, empties⟩
        · exact ⟨first, rfl, emptied⟩
        · refine ⟨last, ?_, empties⟩
          rw [List.getLast?_cons, found]
          rfl

theorem cellsFrom_margin_blank (line : Line) (offset count : Nat) (rest : Text) :
    ∃ later, cellsFrom line .blank offset (List.replicate count ' ' ++ rest) =
      cellsFrom line .blank later rest := by
  induction count generalizing offset with
  | zero => exact ⟨offset, rfl⟩
  | succ count inductionHypothesis =>
      rcases inductionHypothesis (offset + 1) with ⟨later, same⟩
      refine ⟨later, ?_⟩
      rw [List.replicate_succ, List.cons_append, cellsFrom_other (by decide) (by decide), ← same]
      rfl

theorem cellsFrom_margin_text (line : Line) (start : Nat) (kept aside : Text) (offset count : Nat)
    (rest : Text) :
    ∃ later asideLater,
      cellsFrom line (.text start kept aside) offset (List.replicate count ' ' ++ rest) =
        cellsFrom line (.text start kept asideLater) later rest := by
  induction count generalizing offset aside with
  | zero => exact ⟨offset, aside, rfl⟩
  | succ count inductionHypothesis =>
      rcases inductionHypothesis (' ' :: aside) (offset + 1) with ⟨later, asideLater, same⟩
      refine ⟨later, asideLater, ?_⟩
      rw [List.replicate_succ, List.cons_append, cellsFrom_other (by decide) (by decide), ← same]
      rfl

/-- A clean value is kept as a whole: its first character begins a text, and nothing is set aside
behind its last one. -/
private theorem cellsFrom_escapeCell_of_clean {first : Char} {others : Text}
    (clean : Cell.Clean (first :: others)) (line : Line) (start : Nat) (rest : Text) :
    ∃ later, cellsFrom line .blank start (Table.escapeCell (first :: others) ++ rest) =
      cellsFrom line (.text start (first :: others).reverse []) later rest := by
  have staying : CellDraft.stays first = true := clean.1 first rfl
  have written : Table.escapeCell (first :: others) =
      Table.escapeCharacter first ++ Table.escapeCell others := by simp [Table.escapeCell]
  rcases cellsFrom_escapeCharacter line .blank start first (Table.escapeCell others ++ rest) with
    ⟨next, readFirst⟩
  rw [if_pos staying] at readFirst
  rcases cellsFrom_escapeCell line start [first] [] next others rest with
    ⟨later, kept, aside, readOthers, joined, ending⟩
  have nothing : aside = [] := by
    rcases ending with ⟨-, same⟩ | ⟨last, found, empties⟩
    · exact same
    · have whole : (first :: others).getLast? = some last := by
        rw [List.getLast?_cons, found]
        rfl
      exact empties (clean.2 last whole)
  have text : kept = (first :: others).reverse := by
    rw [nothing] at joined
    simpa using joined
  refine ⟨later, ?_⟩
  rw [written, List.append_assoc, readFirst, CellDraft.keep, readOthers, nothing, text]

/-- A written cell gives its text back, however wide its column is. -/
theorem cellsFrom_closedCell {value : Text} (clean : Cell.Clean value) (line : Line)
    (offset width : Nat) (rest : Text) :
    ∃ cell later, cell.value = value ∧
      cellsFrom line .blank offset (Table.closedCell width (Table.escapeCell value) ++ rest) =
        cell :: cellsFrom line .blank later rest := by
  have split : Table.closedCell width (Table.escapeCell value) ++ rest =
      List.replicate 1 ' ' ++ (Table.escapeCell value ++
        (List.replicate (width - (Table.escapeCell value).length + 1) ' ' ++ '|' :: rest)) := by
    simp [Table.closedCell, List.replicate_succ']
  rw [split]
  rcases cellsFrom_margin_blank line offset 1 (Table.escapeCell value ++
    (List.replicate (width - (Table.escapeCell value).length + 1) ' ' ++ '|' :: rest)) with
    ⟨start, same⟩
  rw [same]
  cases value with
  | nil =>
      rcases cellsFrom_margin_blank line start (width - (Table.escapeCell []).length + 1) ('|' :: rest)
        with ⟨later, padded⟩
      refine ⟨CellDraft.blank.finish line later, later + 1, rfl, ?_⟩
      rw [← cellsFrom_bar, ← padded]
      rfl
  | cons first others =>
      generalize width - (Table.escapeCell (first :: others)).length + 1 = padding
      rcases cellsFrom_escapeCell_of_clean clean line start
        (List.replicate padding ' ' ++ '|' :: rest) with ⟨behind, read⟩
      rcases cellsFrom_margin_text line start (first :: others).reverse [] behind padding
        ('|' :: rest) with ⟨later, aside, padded⟩
      refine ⟨(CellDraft.text start (first :: others).reverse aside).finish line later, later + 1,
        List.reverse_reverse _, ?_⟩
      rw [read, padded, cellsFrom_bar]

/-! ## Reading a written row -/

theorem cellsFrom_writtenCells {values : List Text} (clean : ∀ value ∈ values, Cell.Clean value)
    {widths : List Nat} (wide : values.length ≤ widths.length) (line : Line) (offset : Nat) :
    (cellsFrom line .blank offset
      (List.zipWith Table.closedCell widths (values.map Table.escapeCell)).flatten).map Cell.value =
        values := by
  induction values generalizing widths offset with
  | nil => simp [cellsFrom]
  | cons value others inductionHypothesis =>
      cases widths with
      | nil => simp at wide
      | cons width widths =>
          rcases cellsFrom_closedCell (clean value List.mem_cons_self) line offset width
            (List.zipWith Table.closedCell widths (others.map Table.escapeCell)).flatten with
            ⟨cell, later, same, read⟩
          rw [List.map_cons, List.zipWith_cons_cons, List.flatten_cons, read, List.map_cons, same,
            inductionHypothesis (fun other listed => clean other (List.mem_cons_of_mem _ listed))
              (by simpa using wide)]

/-- A written row gives the texts of its cells back, wherever it stands on its line. -/
theorem values_onLine_writtenRow {values : List Text} (clean : ∀ value ∈ values, Cell.Clean value)
    {widths : List Nat} (wide : values.length ≤ widths.length) (indent number : Nat) :
    (Row.onLine ⟨List.replicate indent ' ' ++
      Table.writtenRow widths (values.map Table.escapeCell), number⟩).values = values := by
  have body : (List.replicate indent ' ' ++ Table.writtenRow widths
      (values.map Table.escapeCell)).dropWhile (· != '|') =
        '|' :: (List.zipWith Table.closedCell widths (values.map Table.escapeCell)).flatten := by
    rw [List.dropWhile_append_of_pos]
    · simp [Table.writtenRow]
    · intro character listed
      rw [List.eq_of_mem_replicate listed]
      decide
  simp only [Row.values, Row.onLine, cellsOnLine, body]
  exact cellsFrom_writtenCells clean wide _ _

end Row

namespace Table

/-- Each row is written on one line. -/
theorem layout_eq (table : Table) (indent : Nat) :
    table.layout indent = table.values.map fun values => List.replicate indent ' ' ++
      writtenRow (widths (table.values.map fun row => row.map escapeCell)) (values.map escapeCell) := by
  rw [layout, List.map_map]
  rfl

theorem length_widest (widths others : List Nat) :
    (widest widths others).length = max widths.length others.length := by
  induction widths generalizing others with
  | nil => simp [widest]
  | cons width widths inductionHypothesis =>
      cases others with
      | nil => simp [widest]
      | cons other others => simp [widest, inductionHypothesis]

/-- Every row has a column for each of its cells. -/
theorem length_le_widths {rows : List (List Text)} {row : List Text} (listed : row ∈ rows) :
    row.length ≤ (widths rows).length := by
  induction rows with
  | nil => cases listed
  | cons first rest inductionHypothesis =>
      have step : (widths (first :: rest)).length = max first.length (widths rest).length := by
        simp [widths, length_widest]
      rw [step]
      rcases List.mem_cons.mp listed with rfl | listed
      · exact Nat.le_max_left _ _
      · exact (inductionHypothesis listed).trans (Nat.le_max_right _ _)

theorem singleLine_escapeCell (value : Text) : SingleLine (escapeCell value) := by
  intro listed
  rcases List.mem_flatMap.mp listed with ⟨character, -, found⟩
  simp only [escapeCharacter] at found
  split_ifs at found with backslash bar newline
  · exact absurd found (by decide)
  · exact absurd found (by decide)
  · exact absurd found (by decide)
  · exact newline (List.mem_singleton.mp found).symm

theorem singleLine_closedCell (width : Nat) (value : Text) :
    SingleLine (closedCell width (escapeCell value)) := by
  unfold closedCell
  simp only [Text.singleLine_append]
  refine ⟨⟨⟨?_, singleLine_escapeCell value⟩, Text.singleLine_margin _⟩, ?_⟩
  · decide
  · decide

theorem singleLine_closedCells (widths : List Nat) (values : List Text) :
    SingleLine (List.zipWith closedCell widths (values.map escapeCell)).flatten := by
  induction values generalizing widths with
  | nil => simp
  | cons value others inductionHypothesis =>
      cases widths with
      | nil => simp
      | cons width widths =>
          rw [List.map_cons, List.zipWith_cons_cons, List.flatten_cons, Text.singleLine_append]
          exact ⟨singleLine_closedCell width value, inductionHypothesis widths⟩

theorem singleLine_writtenRow (widths : List Nat) (values : List Text) :
    SingleLine (writtenRow widths (values.map escapeCell)) := by
  unfold writtenRow
  rw [Text.singleLine_append]
  have bar : SingleLine ['|'] := by decide
  exact ⟨bar, singleLine_closedCells widths values⟩

end Table
end Gherkin
