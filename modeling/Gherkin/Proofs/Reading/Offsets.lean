import Gherkin.Proofs.Document.Marks
import Gherkin.Proofs.Table.Writing

namespace Gherkin

/-!
# Offsets within a line

Tags and cells are placed by counting along a line.  The count of a tag runs over
the pieces between the at signs, and that of a cell over single characters and
escapes.  Here both counts are tied to the text of the line: a tag is counted at
its at sign, with its piece behind it, and a cell at the character or escape with
which its text starts, or at the bar that closes it.  Along the line both counts
rise.
-/

theorem Text.drop_length_takeWhile (accepts : Char → Bool) (text : Text) :
    text.drop (text.takeWhile accepts).length = text.dropWhile accepts := by
  have whole := @List.drop_left _ (text.takeWhile accepts) (text.dropWhile accepts)
  rwa [List.takeWhile_append_dropWhile] at whole

theorem Text.getElem?_of_drop {text rest : Text} {offset : Nat} {first : Char}
    (there : text.drop offset = first :: rest) : text[offset]? = some first := by
  rw [← List.head?_drop, there, List.head?_cons]

theorem Text.lt_length_of_drop {text rest : Text} {offset : Nat} {first : Char}
    (there : text.drop offset = first :: rest) : offset < text.length :=
  (List.getElem?_eq_some_iff.mp (getElem?_of_drop there)).1

theorem Text.drop_succ_of_drop {text rest : Text} {offset : Nat} {first : Char}
    (there : text.drop offset = first :: rest) : text.drop (offset + 1) = rest := by
  rw [← List.tail_drop, there, List.tail_cons]

/-! ## Places on a tag line -/

namespace Tag

theorem beforeComment_isPrefix (afterSpace : Bool) (text : Text) :
    beforeComment afterSpace text <+: text := by
  induction text generalizing afterSpace with
  | nil => exact List.prefix_rfl
  | cons first rest inductionHypothesis =>
      rw [beforeComment]
      split_ifs with comment
      · exact List.nil_prefix
      · exact List.cons_prefix_cons.mpr ⟨rfl, inductionHypothesis _⟩

private theorem intercalate_append_cons (mark lead first : Text) (rest : List Text) :
    mark.intercalate ((lead ++ first) :: rest) = lead ++ mark.intercalate (first :: rest) := by
  cases rest with
  | nil => simp
  | cons second others => simp only [List.intercalate_cons_cons, List.append_assoc]

theorem exists_split_of_mem_placePieces {lead : Text} {pieces : List Text} {piece : Nat × Text}
    (listed : piece ∈ placePieces lead.length pieces) :
    ∃ before after, ['@'].intercalate (lead :: pieces) = before ++ '@' :: (piece.2 ++ after) ∧
      before.length = piece.1 := by
  induction pieces generalizing lead with
  | nil => cases listed
  | cons first rest inductionHypothesis =>
      have cut : ['@'].intercalate (lead :: first :: rest) =
          lead ++ '@' :: ['@'].intercalate (first :: rest) := by
        rw [List.intercalate_cons_cons, List.append_assoc, List.singleton_append]
      rcases List.mem_cons.mp listed with rfl | listed
      · have own := intercalate_append_cons ['@'] first [] rest
        rw [List.append_nil] at own
        exact ⟨lead, _, own ▸ cut, rfl⟩
      · have longer : (lead ++ '@' :: first).length = lead.length + 1 + first.length := by
          rw [List.length_append, List.length_cons]
          omega
        rw [← longer] at listed
        rcases inductionHypothesis listed with ⟨before, after, same, size⟩
        refine ⟨before, after, ?_, size⟩
        have shifted := intercalate_append_cons ['@'] (lead ++ ['@']) first rest
        rw [List.append_assoc, List.append_assoc, List.singleton_append] at shifted
        exact cut.trans (shifted.symm.trans same)

/-- Every piece of a tag line stands behind an at sign, and its offset is that of the at sign. -/
theorem exists_split_of_mem_pieces {text : Text} {piece : Nat × Text} (listed : piece ∈ pieces text) :
    ∃ before after, text = before ++ '@' :: (piece.2 ++ after) ∧ before.length = piece.1 := by
  rcases beforeComment_isPrefix false text with ⟨comment, whole⟩
  unfold pieces at listed
  split at listed
  · cases listed
  · next lead rest split =>
      rcases exists_split_of_mem_placePieces listed with ⟨before, after, same, size⟩
      rw [← split, List.intercalate_splitOn] at same
      refine ⟨before, after ++ comment, ?_, size⟩
      rw [← whole, same, List.append_assoc, List.cons_append, List.append_assoc]

theorem le_of_mem_placePieces {offset : Nat} {pieces : List Text} {piece : Nat × Text}
    (listed : piece ∈ placePieces offset pieces) : offset ≤ piece.1 := by
  induction pieces generalizing offset with
  | nil => cases listed
  | cons first rest inductionHypothesis =>
      rcases List.mem_cons.mp listed with rfl | listed
      · exact Nat.le_refl _
      · have further := inductionHypothesis listed
        omega

theorem pairwise_placePieces (offset : Nat) (pieces : List Text) :
    (placePieces offset pieces).Pairwise fun first second => first.1 < second.1 := by
  induction pieces generalizing offset with
  | nil => exact .nil
  | cons first rest inductionHypothesis =>
      refine .cons (fun piece listed => ?_) (inductionHypothesis _)
      have further := le_of_mem_placePieces listed
      show offset < piece.1
      omega

/-- The offsets of the pieces of a tag line rise. -/
theorem pairwise_pieces (text : Text) :
    (pieces text).Pairwise fun first second => first.1 < second.1 := by
  unfold pieces
  split
  · exact .nil
  · exact pairwise_placePieces _ _

end Tag

/-! ## Places in a row -/

/-- A cell stands at an offset of its line, where the line shows something other than whitespace. -/
structure Cell.On (line : Line) (place : Nat) (cell : Cell) : Prop where
  location_eq : cell.location = line.locationAt place
  stands : cell.mark.subject.StandsAt line.text place
  solid : Subject.row.StandsAt line.text place

theorem Cell.On.lt_length {line : Line} {place : Nat} {cell : Cell} (on : cell.On line place) :
    place < line.text.length := by
  rcases on.solid with ⟨shown, there, -⟩
  exact (List.getElem?_eq_some_iff.mp there).1

/-- A cell starts with the character that is shown, or that is the backslash of an escape. -/
def CellDraft.Shows (shown first : Char) : Prop :=
  Text.isSpace shown = false ∧ (shown = first ∨ shown = '\\')

/-- The text of the cell, if there is any yet, starts between the two offsets, with its first
character or with the escape that stands for it. -/
def CellDraft.Begun (text : Text) (lower upper : Nat) : CellDraft → Prop
  | blank => True
  | .text start kept _ => lower ≤ start ∧ start < upper ∧
      ∃ first shown, kept.getLast? = some first ∧ text[start]? = some shown ∧ Shows shown first

namespace CellDraft

variable {draft : CellDraft} {text : Text} {lower offset : Nat} {character : Char}

theorem Begun.mono {later : Nat} (begun : draft.Begun text lower offset) (further : offset ≤ later) :
    draft.Begun text lower later := by
  cases draft with
  | blank => exact begun
  | text start kept aside =>
      rcases begun with ⟨above, below, shows⟩
      exact ⟨above, Nat.lt_of_lt_of_le below further, shows⟩

theorem Begun.keep {shown : Char} (begun : draft.Begun text lower offset) (reached : lower ≤ offset)
    (there : text[offset]? = some shown) (shows : Shows shown character) :
    (draft.keep offset character).Begun text lower (offset + 1) := by
  cases draft with
  | blank => exact ⟨reached, Nat.lt_succ_self offset, character, shown, rfl, there, shows⟩
  | text start kept aside =>
      rcases begun with ⟨above, below, first, earlier, last, further⟩
      refine ⟨above, Nat.lt_succ_of_lt below, first, earlier, ?_, further⟩
      simp [List.getLast?_cons, List.getLast?_append, last]

theorem Begun.add (begun : draft.Begun text lower offset) (reached : lower ≤ offset)
    (there : text[offset]? = some character) :
    (draft.add offset character).Begun text lower (offset + 1) := by
  unfold CellDraft.add
  split_ifs with white
  · cases draft with
    | blank => exact begun
    | text start kept aside => exact begun.mono (Nat.le_succ offset)
  · exact begun.keep reached there ⟨Bool.eq_false_iff.mpr white, .inl rfl⟩

theorem Begun.addEscape (begun : draft.Begun text lower offset) (reached : lower ≤ offset)
    (there : text[offset]? = some '\\') (next : text[offset + 1]? = some character) :
    (draft.addEscape offset character).Begun text lower (offset + 2) := by
  unfold CellDraft.addEscape
  have shows : ∀ meant, Shows '\\' meant := fun _ => ⟨by decide, .inr rfl⟩
  cases escaped? character with
  | some meant => exact (begun.keep reached there (shows meant)).mono (Nat.le_succ _)
  | none => exact (begun.keep reached there (shows _)).add (Nat.le_succ_of_le reached) next

/-- A cell that is closed by a bar stands at its text, or at the bar if it is blank. -/
theorem Begun.finish {line : Line} (begun : draft.Begun line.text lower offset) (reached : lower ≤ offset)
    (bar : line.text[offset]? = some '|') :
    ∃ place, lower ≤ place ∧ place ≤ offset ∧ (draft.finish line offset).On line place := by
  cases draft with
  | blank => exact ⟨offset, reached, Nat.le_refl _, rfl, bar, '|', bar, by decide⟩
  | text start kept aside =>
      rcases begun with ⟨above, below, first, shown, last, there, solid, same⟩
      refine ⟨start, above, Nat.le_of_lt below, rfl, ?_, shown, there, solid⟩
      rw [← List.head?_reverse] at last
      rcases List.head?_eq_some_iff.mp last with ⟨rest, value⟩
      simp only [CellDraft.finish, Cell.mark, value, Subject.StandsAt]
      rcases same with rfl | rfl
      · exact .inl there
      · exact .inr there

end CellDraft

namespace Row

variable {line : Line} {draft : CellDraft} {lower offset : Nat}

/-- The cells that are closed in the rest of a row stand where they are said to, in the order of
the line and not before what was read of the first of them. -/
theorem standing_cellsFrom {text : Text} (begun : draft.Begun line.text lower offset)
    (reached : lower ≤ offset) (there : line.text.drop offset = text) :
    (cellsFrom line draft offset text).Pairwise (fun first second => first.location < second.location) ∧
      ∀ cell ∈ cellsFrom line draft offset text, ∃ place, lower ≤ place ∧ cell.On line place := by
  induction draft, offset, text using cellsFrom.induct generalizing lower with
  | case1 draft offset => simp [cellsFrom]
  | case2 draft offset rest inductionHypothesis =>
      have blank : CellDraft.blank.Begun line.text (offset + 1) (offset + 1) := True.intro
      rcases inductionHypothesis blank (Nat.le_refl _) (Text.drop_succ_of_drop there) with ⟨rising, later⟩
      rcases begun.finish reached (Text.getElem?_of_drop there) with ⟨place, above, below, on⟩
      rw [cellsFrom_bar]
      constructor
      · refine .cons (fun cell listed => ?_) rising
        rcases later cell listed with ⟨further, behind, onLater⟩
        rw [on.location_eq, onLater.location_eq]
        exact .inr ⟨rfl, by simp only [Line.locationAt]; omega⟩
      · intro cell listed
        rcases List.mem_cons.mp listed with rfl | listed
        · exact ⟨place, above, on⟩
        · rcases later cell listed with ⟨further, behind, onLater⟩
          exact ⟨further, by omega, onLater⟩
  | case3 draft offset => simp [cellsFrom]
  | case4 draft offset second others _ inductionHypothesis =>
      have next := Text.drop_succ_of_drop there
      rw [cellsFrom_escape]
      exact inductionHypothesis
        (begun.addEscape reached (Text.getElem?_of_drop there) (Text.getElem?_of_drop next))
        (Nat.le_add_right_of_le reached) (Text.drop_succ_of_drop next)
  | case5 draft offset first rest noBar noEscape inductionHypothesis =>
      rw [cellsFrom_other noBar noEscape]
      exact inductionHypothesis (begun.add reached (Text.getElem?_of_drop there))
        (Nat.le_succ_of_le reached) (Text.drop_succ_of_drop there)

theorem barOffset_le (line : Line) : barOffset line ≤ line.text.length := by
  unfold barOffset
  split_ifs
  · exact (List.takeWhile_prefix _).length_le
  · exact (List.takeWhile_prefix Text.isSpace).length_le

/-- If a line has a bar, then its cells are read behind the first one. -/
theorem exists_drop_barOffset (present : '|' ∈ line.text) :
    ∃ body, line.text.drop (barOffset line) = '|' :: body ∧
      cellsOnLine line = cellsFrom line .blank (barOffset line + 1) body := by
  have start : barOffset line = (line.text.takeWhile (· != '|')).length :=
    if_pos (List.contains_iff_mem.mpr present)
  have there : line.text.drop (barOffset line) = line.text.dropWhile (· != '|') := by
    rw [start, Text.drop_length_takeWhile]
  cases found : line.text.dropWhile (· != '|') with
  | nil => exact absurd (List.dropWhile_eq_nil_iff.mp found '|' present) (by decide)
  | cons first body =>
      have bar : first = '|' := by
        have stopped := List.head?_dropWhile_not (· != '|') line.text
        rw [found] at stopped
        simpa using stopped
      subst bar
      exact ⟨body, there.trans found, by rw [cellsOnLine, found]⟩

theorem cellsOnLine_of_not_mem {line : Line} (absent : '|' ∉ line.text) : cellsOnLine line = [] := by
  have none : line.text.dropWhile (· != '|') = [] := by
    rw [← Text.drop_length_takeWhile, Text.takeWhile_of_not_mem absent, List.drop_length]
  rw [cellsOnLine, none]

/-- The cells of a line stand where they are said to, in the order of the line and behind its
first bar. -/
theorem standing_cellsOnLine (line : Line) :
    (cellsOnLine line).Pairwise (fun first second => first.location < second.location) ∧
      ∀ cell ∈ cellsOnLine line, ∃ place, cell.On line place := by
  by_cases present : '|' ∈ line.text
  · rcases exists_drop_barOffset present with ⟨body, there, cells⟩
    have blank : CellDraft.blank.Begun line.text (barOffset line + 1) (barOffset line + 1) := True.intro
    rcases standing_cellsFrom blank (Nat.le_refl _) (Text.drop_succ_of_drop there) with ⟨rising, placed⟩
    rw [cells]
    refine ⟨rising, fun cell listed => ?_⟩
    rcases placed cell listed with ⟨place, -, on⟩
    exact ⟨place, on⟩
  · rw [cellsOnLine_of_not_mem present]
    exact ⟨.nil, fun cell listed => absurd listed List.not_mem_nil⟩

theorem exists_offset_onLine (line : Line) :
    ∃ place ≤ line.text.length, (onLine line).location = line.locationAt place := by
  cases cells : cellsOnLine line with
  | nil => exact ⟨barOffset line, barOffset_le line, by simp [onLine, cells, barLocation]⟩
  | cons first rest =>
      have listed : first ∈ cellsOnLine line := cells ▸ List.mem_cons_self
      rcases (standing_cellsOnLine line).2 first listed with ⟨place, on⟩
      exact ⟨place, Nat.le_of_lt on.lt_length, by simp [onLine, cells, on.location_eq]⟩

end Row
end Gherkin
