import Gherkin.Proofs.Reading.Offsets

namespace Gherkin

open Text (EndsSolid StartsSolid isBlank isSpace)

/-!
# Rows cut into pieces

A row can also be read in several passes, one after the other.  What stands behind
the first bar is cut at every bar that no backslash takes with it.  Then each piece
is trimmed as it is written, and only then its escapes are resolved.

The reader goes through a row once: it resolves escapes first and trims by keeping
apart what an escape stands for.  Both ways give the same cells at the same places.
The two orders agree because no escape that stands for a character ends with
whitespace, so trimming a piece never takes a part of one away.
-/

/-! ## Several passes -/

namespace Row

/-- The pieces between the bars of a text.  A backslash takes the next character with it, so
that a bar behind it cuts nothing. -/
def cut : Text → List Text
  | [] => [[]]
  | '|' :: rest => [] :: cut rest
  | '\\' :: second :: rest => (cut rest).modifyHead fun piece => '\\' :: second :: piece
  | first :: rest => (cut rest).modifyHead fun piece => first :: piece

/-- Pieces with the offsets of their first characters, where a bar stands behind each piece
and the first one starts at `offset`. -/
def placed (offset : Nat) : List Text → List (Nat × Text)
  | [] => []
  | piece :: rest => (offset, piece) :: placed (offset + piece.length + 1) rest

end Row

namespace Cell

/-- The text for which the escapes in a text stand, from left to right.  A backslash that is
not before a bar, a backslash or an `n` stands for itself. -/
def resolve : Text → Text
  | [] => []
  | '\\' :: '|' :: rest => '|' :: resolve rest
  | '\\' :: '\\' :: rest => '\\' :: resolve rest
  | '\\' :: 'n' :: rest => '\n' :: resolve rest
  | first :: rest => first :: resolve rest

/-- The cell of a piece that starts at `offset` and is closed by a bar.  Its place is that of
its first character that is not whitespace, and the bar if there is none. -/
def ofPiece (line : Line) (offset : Nat) (piece : Text) : Cell where
  value := resolve piece.trim
  location := line.locationAt (offset + if piece.isBlank then piece.length else piece.indent)

end Cell

/-- The cells of a line, read in several passes.  What stands behind the last bar is no cell. -/
def Row.cutCells (line : Line) : List Cell :=
  let start := (line.text.takeWhile (· != '|')).length + 1
  (placed start (cut (line.text.drop start)).dropLast).map fun piece =>
    Cell.ofPiece line piece.1 piece.2

/-! ## Reading one piece -/

namespace CellDraft

/-- The cell in progress behind the characters of a piece.  Behind a backslash that stands for
itself the next character is taken up like any other. -/
def read (draft : CellDraft) (offset : Nat) : Text → CellDraft
  | [] => draft
  | '\\' :: '|' :: rest => read (draft.keep offset '|') (offset + 2) rest
  | '\\' :: '\\' :: rest => read (draft.keep offset '\\') (offset + 2) rest
  | '\\' :: 'n' :: rest => read (draft.keep offset '\n') (offset + 2) rest
  | first :: rest => read (draft.add offset first) (offset + 1) rest

variable {draft : CellDraft} {offset : Nat}

theorem read_other {first : Char} (noEscape : first ≠ '\\') (draft : CellDraft) (offset : Nat)
    (rest : Text) : draft.read offset (first :: rest) = (draft.add offset first).read (offset + 1) rest := by
  rw [read] <;> exact fun _ same => absurd same noEscape

theorem read_space {first : Char} (space : isSpace first = true) (draft : CellDraft) (offset : Nat)
    (rest : Text) : draft.read offset (first :: rest) = (draft.add offset first).read (offset + 1) rest := by
  refine read_other ?_ draft offset rest
  rintro rfl
  exact absurd space (by decide)

theorem read_escape (draft : CellDraft) (offset : Nat) (second : Char) (rest : Text) :
    draft.read offset ('\\' :: second :: rest) =
      (draft.addEscape offset second).read (offset + 2) rest := by
  by_cases bar : second = '|'
  · subst bar
    rfl
  by_cases backslash : second = '\\'
  · subst backslash
    rfl
  by_cases letter : second = 'n'
  · subst letter
    rfl
  have itself : (draft.add offset '\\') = draft.keep offset '\\' := rfl
  have meant : escaped? second = none := by simp [escaped?, bar, backslash, letter]
  rw [addEscape, meant, read, read_other backslash, itself]
  · exact fun _ _ same => absurd (List.cons.inj same).1 bar
  · exact fun _ _ same => absurd (List.cons.inj same).1 backslash
  · exact fun _ _ same => absurd (List.cons.inj same).1 letter

/-- A piece starts where its first character that is not whitespace stands. -/
theorem read_margin {before : Text} (white : before.isBlank = true) (offset : Nat) (rest : Text) :
    blank.read offset (before ++ rest) = blank.read (offset + before.length) rest := by
  induction before generalizing offset with
  | nil => rfl
  | cons first others inductionHypothesis =>
      rcases Bool.and_eq_true_iff.mp white with ⟨space, later⟩
      have skipped : blank.add offset first = blank := by simp [add, space]
      rw [List.cons_append, read_space space, skipped, inductionHypothesis later, List.length_cons]
      congr 1
      omega

/-- Whitespace behind the text of a cell is set aside. -/
theorem read_blank {after : Text} (white : after.isBlank = true) (start : Nat) (kept aside : Text)
    (offset : Nat) :
    (text start kept aside).read offset after = text start kept (after.reverse ++ aside) := by
  induction after generalizing offset aside with
  | nil => rfl
  | cons first others inductionHypothesis =>
      rcases Bool.and_eq_true_iff.mp white with ⟨space, later⟩
      have setAside : (text start kept aside).add offset first = text start kept (first :: aside) := by
        simp [add, space]
      rw [read_space space, setAside, inductionHypothesis later, List.reverse_cons,
        List.append_assoc, List.singleton_append]

/-- What starts with a solid character starts the text of a cell at once. -/
theorem read_of_startsSolid {core : Text} (solid : StartsSolid core) (present : core ≠ [])
    (offset : Nat) : blank.read offset core = (text offset [] []).read offset core := by
  cases core with
  | nil => exact absurd rfl present
  | cons first rest =>
      have firstSolid : isSpace first = false := Text.startsSolid_cons.mp solid
      by_cases escape : first = '\\'
      · subst escape
        cases rest with
        | nil => rfl
        | cons second others =>
            have same : blank.addEscape offset second = (text offset [] []).addEscape offset second := by
              unfold addEscape
              cases escaped? second <;> rfl
            rw [read_escape, read_escape, same]
      · have same : blank.add offset first = (text offset [] []).add offset first := by
          simp [add, firstSolid, keep]
        rw [read_other escape, read_other escape, same]

private theorem exists_cons_of_append {rest after others : Text} {mark : Char}
    (white : after.isBlank = true) (solid : isSpace mark = false) (same : rest ++ after = mark :: others) :
    ∃ later, rest = mark :: later := by
  cases rest with
  | nil =>
      rw [List.nil_append] at same
      rw [same] at white
      simp [isBlank, solid] at white
  | cons first later => exact ⟨later, by rw [(List.cons.inj same).1]⟩

/-- A character that begins no escape is taken up alone, also before whitespace that ends a piece. -/
private theorem read_first {first : Char} {rest after : Text} (white : after.isBlank = true)
    (noBar : ∀ others, first = '\\' → rest = '|' :: others → False)
    (noBackslash : ∀ others, first = '\\' → rest = '\\' :: others → False)
    (noLetter : ∀ others, first = '\\' → rest = 'n' :: others → False)
    (draft : CellDraft) (offset : Nat) :
    draft.read offset (first :: (rest ++ after)) =
      (draft.add offset first).read (offset + 1) (rest ++ after) := by
  have plain : ∀ {mark : Char}, isSpace mark = false →
      (∀ others, first = '\\' → rest = mark :: others → False) →
      ∀ others, first = '\\' → rest ++ after = mark :: others → False := by
    intro mark markSolid absent others escape same
    rcases exists_cons_of_append white markSolid same with ⟨later, found⟩
    exact absent later escape found
  rw [read]
  · exact plain (by decide) noBar
  · exact plain (by decide) noBackslash
  · exact plain (by decide) noLetter

/-- The text of a piece is kept with its escapes resolved, and the whitespace behind it is set
aside. -/
theorem read_core {core after : Text} (solid : EndsSolid core) (white : after.isBlank = true)
    (start : Nat) (kept aside : Text) (settled : core = [] → aside = []) (offset : Nat) :
    (text start kept aside).read offset (core ++ after) =
      text start ((Cell.resolve core).reverse ++ (aside ++ kept)) after.reverse := by
  have further {first : Char} {rest : Text} (solid : EndsSolid ([first] ++ rest)) : EndsSolid rest :=
    Text.endsSolid_of_append solid
  induction core using Cell.resolve.induct generalizing kept aside offset with
  | case1 =>
      rw [settled rfl, List.nil_append, read_blank white, List.append_nil]
      rfl
  | case2 rest inductionHypothesis | case3 rest inductionHypothesis | case4 rest inductionHypothesis =>
      simp only [List.cons_append, read, keep]
      rw [inductionHypothesis (further (further solid)) _ _ fun _ => rfl]
      simp [Cell.resolve]
  | case5 first rest noBar noBackslash noLetter inductionHypothesis =>
      have resolved : Cell.resolve (first :: rest) = first :: Cell.resolve rest := by
        rw [Cell.resolve]
        · exact noBar
        · exact noBackslash
        · exact noLetter
      rw [List.cons_append, read_first white noBar noBackslash noLetter, resolved]
      cases space : isSpace first with
      | false =>
          have taken : (text start kept aside).add offset first =
              text start (first :: (aside ++ kept)) [] := by
            simp [add, space, keep]
          rw [taken, inductionHypothesis (further solid) _ _ fun _ => rfl]
          simp
      | true =>
          have setAside : (text start kept aside).add offset first = text start kept (first :: aside) := by
            simp [add, space]
          have present : rest ≠ [] := by
            rintro rfl
            rw [solid first rfl] at space
            cases space
          rw [setAside, inductionHypothesis (further solid) _ _ fun none => absurd none present]
          simp

/-- The cell of a piece, read in one pass, is the one that trimming and resolving give. -/
theorem finish_read (line : Line) (offset : Nat) (piece : Text) :
    (blank.read offset piece).finish line (offset + piece.length) = Cell.ofPiece line offset piece := by
  rcases Text.exists_trim piece with ⟨before, after, blankBefore, blankAfter, same⟩
  have core := Text.trimmed_trim piece
  cases white : piece.isBlank with
  | true =>
      have nothing := read_margin white offset []
      rw [List.append_nil] at nothing
      rw [nothing, Cell.ofPiece, white, Text.trim_eq_nil_iff.mpr white]
      rfl
  | false =>
      have present : piece.trim ≠ [] := fun none =>
        Bool.eq_false_iff.mp white (Text.trim_eq_nil_iff.mp none)
      have starts : StartsSolid (piece.trim ++ after) := Text.startsSolid_append core.1 present
      have margin : piece.indent = before.length := by
        conv_lhs => rw [same, List.append_assoc]
        exact Text.indent_append blankBefore starts
      have whole : blank.read offset piece = text (offset + before.length)
          ((Cell.resolve piece.trim).reverse) after.reverse := by
        conv_lhs => rw [same, List.append_assoc]
        rw [read_margin blankBefore, read_of_startsSolid starts (by simp [present]),
          read_core core.2 blankAfter _ _ _ fun none => absurd none present]
        simp
      rw [whole, Cell.ofPiece, white, margin]
      simp [finish]

end CellDraft

/-! ## Reading all pieces -/

namespace Row

variable {line : Line}

theorem cut_other {first : Char} (noBar : first ≠ '|') (noEscape : first ≠ '\\') (rest : Text) :
    cut (first :: rest) = (cut rest).modifyHead fun piece => first :: piece := by
  rw [cut]
  · exact noBar
  · exact fun _ _ same => absurd same noEscape

theorem cut_ne_nil (text : Text) : cut text ≠ [] := by
  induction text using cut.induct with
  | case1 => simp [cut]
  | case2 rest => simp [cut]
  | case3 second rest inductionHypothesis => simp [cut, inductionHypothesis]
  | case4 first rest noBar noEscape inductionHypothesis =>
      rw [cut] <;> simp_all

/-- The cells of pieces that are read one by one, where `draft` is the cell in progress at the start
of the first piece.  The last piece is not closed. -/
def closedCells (line : Line) (draft : CellDraft) (offset : Nat) : List Text → List Cell
  | [] | [_] => []
  | piece :: next :: rest =>
    (draft.read offset piece).finish line (offset + piece.length) ::
      closedCells line .blank (offset + piece.length + 1) (next :: rest)

/-- Reading on from characters at the start of the first piece. -/
theorem closedCells_modifyHead {draft later : CellDraft} {offset : Nat} (lead : Text)
    (reads : ∀ piece, draft.read offset (lead ++ piece) = later.read (offset + lead.length) piece)
    (line : Line) (pieces : List Text) :
    closedCells line draft offset (pieces.modifyHead fun piece => lead ++ piece) =
      closedCells line later (offset + lead.length) pieces := by
  match pieces with
  | [] | [_] => rfl
  | piece :: next :: rest =>
      simp only [List.modifyHead_cons, closedCells, reads, List.length_append, Nat.add_assoc]

/-- The reader of a row reads its pieces one by one. -/
theorem cellsFrom_eq_closedCells (line : Line) (draft : CellDraft) (offset : Nat) (text : Text) :
    cellsFrom line draft offset text = closedCells line draft offset (cut text) := by
  induction draft, offset, text using cellsFrom.induct with
  | case1 draft offset => simp [cellsFrom, cut, closedCells]
  | case2 draft offset rest inductionHypothesis =>
      rw [cellsFrom_bar, inductionHypothesis, cut]
      cases pieces : cut rest with
      | nil => exact absurd pieces (cut_ne_nil rest)
      | cons next others => rfl
  | case3 draft offset => simp [cellsFrom, cut, closedCells]
  | case4 draft offset second others _ inductionHypothesis =>
      have reads := CellDraft.read_escape draft offset second
      rw [cellsFrom_escape, inductionHypothesis, cut]
      exact (closedCells_modifyHead ['\\', second] reads line (cut others)).symm
  | case5 draft offset first rest noBar noEscape inductionHypothesis =>
      have reads := CellDraft.read_other noEscape draft offset
      rw [cellsFrom_other noBar noEscape, inductionHypothesis, cut_other noBar noEscape]
      exact (closedCells_modifyHead [first] reads line (cut rest)).symm

theorem closedCells_blank (line : Line) (offset : Nat) (pieces : List Text) :
    closedCells line .blank offset pieces =
      (placed offset pieces.dropLast).map fun piece => Cell.ofPiece line piece.1 piece.2 := by
  induction pieces generalizing offset with
  | nil => rfl
  | cons piece rest inductionHypothesis =>
      cases rest with
      | nil => rfl
      | cons next others =>
          rw [closedCells, CellDraft.finish_read, inductionHypothesis, List.dropLast_cons_cons,
            placed, List.map_cons]

/-- The cells that are read in one pass are those that cutting, trimming and resolving give. -/
theorem cells_onLine_eq_cutCells (line : Line) : (onLine line).cells = cutCells line := by
  have same : (onLine line).cells = cellsOnLine line := rfl
  rw [same, cutCells]
  by_cases present : '|' ∈ line.text
  · rcases exists_drop_barOffset present with ⟨body, there, cells⟩
    have start : (line.text.takeWhile (· != '|')).length = barOffset line :=
      (if_pos (List.contains_iff_mem.mpr present)).symm
    rw [cells, cellsFrom_eq_closedCells, closedCells_blank, start, Text.drop_succ_of_drop there]
  · rw [cellsOnLine_of_not_mem present, Text.takeWhile_of_not_mem present,
      List.drop_eq_nil_of_le (Nat.le_succ _)]
    rfl

end Row
end Gherkin
