import Gherkin.Tag
import Mathlib.Data.List.Basic

namespace Gherkin
namespace Tag

open Text (isSpace)

/-!
# The marks on a tag line

The reader cuts a tag line at its at signs and counts where the pieces begin.  Here the
tags are told by what can be seen on the line: where its inline comment begins, at which
offsets there is an at sign before that, and what stands behind each of them up to the
next one.
-/

/-- Whether an inline comment begins at the given offset: there is a number sign, and
whitespace just before it. -/
def startsComment (text : Text) (offset : Nat) : Bool :=
  decide (text[offset]? = some '#') && (text.take offset).getLast?.any isSpace

/-- The text up to its first inline comment. -/
def uncommented (text : Text) : Text :=
  text.take (((List.range text.length).find? (startsComment text)).getD text.length)

/-- The at signs before the inline comment, each by its offset and with what stands behind
it up to the next one. -/
def segments (text : Text) : List (Nat × Text) :=
  ((uncommented text).idxsOf '@').map fun offset =>
    (offset, ((uncommented text).drop (offset + 1)).takeWhile (· ≠ '@'))

/-! ## The inline comment -/

/-- Going on behind `before`, the reader stops at the first inline comment. -/
private theorem append_beforeComment (before rest : Text) :
    before ++ beforeComment (before.getLast?.any isSpace) rest =
      (before ++ rest).take (((List.range' before.length rest.length).find?
        (startsComment (before ++ rest))).getD (before ++ rest).length) := by
  induction rest generalizing before with
  | nil => simp [beforeComment]
  | cons first rest inductionHypothesis =>
      have here : startsComment (before ++ first :: rest) before.length =
          (before.getLast?.any isSpace && first == '#') := by
        rw [Bool.eq_iff_iff]
        simp [startsComment, and_comm]
      rw [List.length_cons, List.range'_succ, List.find?_cons, here, beforeComment]
      cases starts : before.getLast?.any isSpace && first == '#' with
      | true => simp
      | false =>
          have further := inductionHypothesis (before ++ [first])
          simpa using further

theorem beforeComment_eq_uncommented (text : Text) : beforeComment false text = uncommented text := by
  have whole := append_beforeComment [] text
  rwa [List.length_nil, ← List.range_eq_range'] at whole

/-! ## The at signs -/

theorem exists_splitOn_cons (mark : Char) (text : Text) :
    ∃ others, text.splitOn mark = text.takeWhile (· ≠ mark) :: others := by
  induction text with
  | nil => exact ⟨[], rfl⟩
  | cons first rest inductionHypothesis =>
      rcases inductionHypothesis with ⟨others, cut⟩
      rw [List.splitOn_cons_eq_if_modifyHead, cut]
      by_cases marked : first = mark <;> simp [marked]

/-- Going on behind `before`, the reader finds each at sign where it stands. -/
private theorem placePieces_eq_map_idxsOf (before rest : Text) {lead : Text} {others : List Text}
    (cut : rest.splitOn '@' = lead :: others) :
    placePieces (before.length + lead.length) others =
      (rest.idxsOf '@' before.length).map fun offset =>
        (offset, ((before ++ rest).drop (offset + 1)).takeWhile (· ≠ '@')) := by
  induction rest generalizing before lead others with
  | nil =>
      cases cut
      rfl
  | cons first rest inductionHypothesis =>
      rcases exists_splitOn_cons '@' rest with ⟨later, cutLater⟩
      have further := inductionHypothesis (before ++ [first]) cutLater
      rw [List.splitOn_cons_eq_if_modifyHead, cutLater] at cut
      by_cases marked : first = '@'
      · simp [marked] at cut further
        rcases cut with ⟨rfl, rfl⟩
        simp [placePieces, List.idxsOf_cons, marked, further]
      · simp [marked] at cut further
        rcases cut with ⟨rfl, rfl⟩
        simp [List.idxsOf_cons, marked, ← further, ← Nat.add_assoc, Nat.add_right_comm]

/-- The pieces at which the reader arrives are those that the at signs mark. -/
theorem pieces_eq_segments (text : Text) : pieces text = segments text := by
  rcases exists_splitOn_cons '@' (uncommented text) with ⟨others, cut⟩
  rw [pieces, beforeComment_eq_uncommented, cut, segments]
  simpa using placePieces_eq_map_idxsOf [] (uncommented text) cut

/-- A number sign within a name begins no comment. -/
example : segments "@a#1 @b c # @d".toList = [(0, "a#1 ".toList), (5, "b c ".toList)] := by decide

/-! ## Tag lines -/

/-- A tag line has no faults exactly if no at sign before the inline comment has whitespace
inside of what is behind it. -/
theorem faultsOnLine_eq_nil_iff {line : Line} :
    faultsOnLine line = [] ↔
      ∀ segment ∈ segments line.text, ∀ character ∈ Text.trim segment.2, isSpace character = false := by
  rw [faultsOnLine, pieces_eq_segments, List.filterMap_eq_nil_iff]
  simp

/-- The tag that an at sign starts, if there is anything behind it but whitespace around a
name without whitespace inside. -/
def ofSegment? (line : Line) (segment : Nat × Text) : Option Tag :=
  let name := Text.trim segment.2
  if name ≠ [] ∧ name.any isSpace = false then
    some ⟨name, line.locationAt segment.1⟩
  else none

/-- The tags of a tag line are those that its at signs start, from left to right. -/
theorem onLine_eq_filterMap (line : Line) :
    onLine line = (segments line.text).filterMap (ofSegment? line) := by
  have refused_iff (name : Text) : (name.isEmpty || name.any isSpace) = true ↔
      ¬ (name ≠ [] ∧ name.any isSpace = false) := by
    simp [or_iff_not_imp_left]
  rw [onLine, pieces_eq_segments]
  refine List.filterMap_congr fun segment _ => ?_
  simp only [refused_iff, ite_not, ofSegment?]

end Tag
end Gherkin
