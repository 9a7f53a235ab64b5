import Gherkin.Proofs.Document.Erasure
import Gherkin.Proofs.Text.Lines

namespace Gherkin
namespace Tag

open Text (isSpace SingleLine)

/-!
# Written tags are read back

The names of tags are not empty and have neither whitespace nor an at sign in
them.  So on a written line each at sign starts a tag, and no number sign in a
name follows whitespace, where it would start a comment.
-/

/-- A tag with a name that a line can give. -/
structure Proper (tag : Tag) : Prop where
  present : tag.name ≠ []
  unmarked : '@' ∉ tag.name
  solid : ∀ character ∈ tag.name, isSpace character = false

/-- Tags in a line of their own, without its margin. -/
def spelled (tags : List Tag) : Text :=
  [' '].intercalate (tags.map marked)

/-- What stands behind a tag. -/
def spelledBehind (tags : List Tag) : Text :=
  if tags = [] then [] else ' ' :: spelled tags

theorem spelled_cons (tag : Tag) (rest : List Tag) :
    spelled (tag :: rest) = '@' :: (tag.name ++ spelledBehind rest) := by
  cases rest with
  | nil => simp [spelled, spelledBehind, marked]
  | cons other others => simp [spelled, spelledBehind, marked, List.intercalate]

/-! ## Tags that are read -/

theorem mem_of_mem_placePieces {offset : Nat} {pieces : List Text} {piece : Nat × Text}
    (listed : piece ∈ placePieces offset pieces) : piece.2 ∈ pieces := by
  induction pieces generalizing offset with
  | nil => cases listed
  | cons first rest inductionHypothesis =>
      rcases List.mem_cons.mp listed with rfl | listed
      · exact List.mem_cons_self
      · exact List.mem_cons_of_mem _ (inductionHypothesis listed)

/-- The tags of a line are proper. -/
theorem proper_of_mem_onLine {line : Line} {tag : Tag} (listed : tag ∈ onLine line) : tag.Proper := by
  rcases List.mem_filterMap.mp listed with ⟨piece, among, named⟩
  simp only [Bool.or_eq_true, List.isEmpty_iff, List.any_eq_true] at named
  split_ifs at named with refused
  cases named
  rw [not_or] at refused
  refine ⟨refused.1, ?_, ?_⟩
  · intro found
    unfold pieces at among
    split at among
    · cases among
    · next lead rest split =>
        have piece : piece.2 ∈ (beforeComment false line.text).splitOn '@' := by
          rw [split]
          exact List.mem_cons_of_mem _ (mem_of_mem_placePieces among)
        exact Text.not_mem_of_mem_splitOn piece (Text.mem_of_mem_trim found)
  · intro character within
    exact Bool.eq_false_iff.mpr fun space => refused.2 ⟨character, within, space⟩

/-! ## Tags that are written -/

theorem beforeComment_append {name : Text} (solid : ∀ character ∈ name, isSpace character = false)
    (rest : Text) : beforeComment false (name ++ rest) = name ++ beforeComment false rest := by
  induction name with
  | nil => rfl
  | cons first others inductionHypothesis =>
      have later := inductionHypothesis fun character listed =>
        solid character (List.mem_cons_of_mem _ listed)
      simp [beforeComment, solid first List.mem_cons_self, later]

/-- Whitespace in front of an at sign starts no comment. -/
theorem beforeComment_margin (afterSpace : Bool) (indent : Nat) (rest : Text) :
    beforeComment afterSpace (List.replicate indent ' ' ++ '@' :: rest) =
      List.replicate indent ' ' ++ '@' :: beforeComment false rest := by
  induction indent generalizing afterSpace with
  | zero =>
      have solid : isSpace '@' = false := by decide
      simp [beforeComment, solid]
  | succ indent inductionHypothesis =>
      simp [List.replicate_succ, beforeComment, inductionHypothesis]

variable {tags : List Tag}

theorem beforeComment_spelled (proper : ∀ tag ∈ tags, tag.Proper) (present : tags ≠ [])
    (indent : Nat) :
    beforeComment false (List.replicate indent ' ' ++ spelled tags) =
      List.replicate indent ' ' ++ spelled tags := by
  induction tags generalizing indent with
  | nil => exact absurd rfl present
  | cons tag rest inductionHypothesis =>
      rw [spelled_cons, beforeComment_margin,
        beforeComment_append (proper tag List.mem_cons_self).solid]
      cases rest with
      | nil => rfl
      | cons other others =>
          have later := inductionHypothesis
            (fun next listed => proper next (List.mem_cons_of_mem _ listed)) (List.cons_ne_nil _ _) 1
          have behind : spelledBehind (other :: others) =
              List.replicate 1 ' ' ++ spelled (other :: others) := rfl
          rw [behind, later]

theorem Proper.trimmed {tag : Tag} (proper : tag.Proper) : Text.Trimmed tag.name :=
  ⟨fun first found => proper.solid first (List.mem_of_mem_head? found),
    fun last found => proper.solid last (List.mem_of_mem_getLast? found)⟩

theorem Proper.any_isSpace {tag : Tag} (proper : tag.Proper) : tag.name.any isSpace = false := by
  rw [List.any_eq_false]
  intro character listed
  simp [proper.solid character listed]

theorem Proper.isEmpty {tag : Tag} (proper : tag.Proper) : tag.name.isEmpty = false :=
  List.isEmpty_eq_false_iff.mpr proper.present

/-- Cut at its at signs, a written line has the names of its tags behind the margin. -/
theorem splitOn_spelled (proper : ∀ tag ∈ tags, tag.Proper) {lead : Text} (unmarked : '@' ∉ lead) :
    ∃ names, (lead ++ spelled tags).splitOn '@' = lead :: names ∧
      names.map Text.trim = tags.map Tag.name := by
  induction tags generalizing lead with
  | nil =>
      refine ⟨[], ?_, rfl⟩
      rw [spelled, List.map_nil, List.intercalate_nil, List.append_nil,
        List.splitOn_eq_singleton unmarked]
  | cons tag rest inductionHypothesis =>
      have own := proper tag List.mem_cons_self
      rw [spelled_cons, List.splitOn_append_cons_self_of_not_mem unmarked]
      cases rest with
      | nil =>
          refine ⟨[tag.name], ?_, ?_⟩
          · rw [spelledBehind, if_pos rfl, List.append_nil, List.splitOn_eq_singleton own.unmarked]
          · simp [Text.trim_eq_self own.trimmed]
      | cons other others =>
          have spaced : '@' ∉ tag.name ++ [' '] := by simp [own.unmarked]
          rcases inductionHypothesis (fun next listed => proper next (List.mem_cons_of_mem _ listed))
            spaced with ⟨names, split, same⟩
          refine ⟨(tag.name ++ [' ']) :: names, ?_, ?_⟩
          · rw [← split]
            simp [spelledBehind]
          · have white : Text.isBlank [' '] = true := by decide
            rw [List.map_cons, same, Text.trim_append_right white, Text.trim_eq_self own.trimmed]
            rfl

/-- Pieces that hold the names of proper tags give these tags and no faults. -/
theorem tags_placePieces (proper : ∀ tag ∈ tags, tag.Proper) {names : List Text}
    (same : names.map Text.trim = tags.map Tag.name) (line : Line) (offset : Nat) :
    ((placePieces offset names).filterMap fun piece =>
        let name := Text.trim piece.2
        if name.isEmpty || name.any isSpace then none
        else some (⟨name, line.locationAt piece.1⟩ : Tag)).map Tag.erased = tags.map Tag.erased ∧
      ((placePieces offset names).filterMap fun piece =>
        if (Text.trim piece.2).any isSpace then
          some (⟨.spacedTag, line.locationAt piece.1⟩ : Fault)
        else none) = [] := by
  induction names generalizing tags offset with
  | nil =>
      cases tags with
      | nil => exact ⟨rfl, rfl⟩
      | cons tag rest => cases same
  | cons first others inductionHypothesis =>
      cases tags with
      | nil => cases same
      | cons tag rest =>
          rw [List.map_cons, List.map_cons, List.cons.injEq] at same
          rcases same with ⟨own, same⟩
          have given := proper tag List.mem_cons_self
          have solid : (Text.trim first).any isSpace = false := by rw [own, given.any_isSpace]
          have named : (Text.trim first).isEmpty = false := by rw [own, given.isEmpty]
          rcases inductionHypothesis (fun other listed => proper other (List.mem_cons_of_mem _ listed))
            same (offset + 1 + first.length) with ⟨read, faultless⟩
          constructor
          · simp only [placePieces, List.filterMap_cons, solid, named, Bool.or_false,
              Bool.false_eq_true, if_false, List.map_cons]
            rw [read, own]
            rfl
          · simp only [placePieces, List.filterMap_cons, solid, Bool.false_eq_true, if_false]
            exact faultless

/-- The written line of tags gives them back, wherever it stands and without a fault. -/
theorem onLine_spelled (proper : ∀ tag ∈ tags, tag.Proper) (present : tags ≠ [])
    (indent number : Nat) :
    (onLine ⟨List.replicate indent ' ' ++ spelled tags, number⟩).map erased = tags.map erased ∧
      faultsOnLine ⟨List.replicate indent ' ' ++ spelled tags, number⟩ = [] := by
  have margin : '@' ∉ List.replicate indent ' ' := fun listed =>
    absurd (List.eq_of_mem_replicate listed) (by decide)
  rcases splitOn_spelled proper margin with ⟨names, split, same⟩
  have cut : pieces (List.replicate indent ' ' ++ spelled tags) =
      placePieces (List.replicate indent ' ').length names := by
    rw [pieces, beforeComment_spelled proper present, split]
  rw [onLine, faultsOnLine, cut]
  exact tags_placePieces proper same _ _

theorem singleLine_spelled (proper : ∀ tag ∈ tags, tag.Proper) : SingleLine (spelled tags) := by
  induction tags with
  | nil => exact Text.singleLine_nil
  | cons tag rest inductionHypothesis =>
      have own : SingleLine tag.name := fun listed =>
        absurd ((proper tag List.mem_cons_self).solid '\n' listed) (by decide)
      have later := inductionHypothesis fun other listed => proper other (List.mem_cons_of_mem _ listed)
      have mark : SingleLine ['@'] := by decide
      rw [spelled_cons, ← List.singleton_append, Text.singleLine_append, Text.singleLine_append]
      refine ⟨mark, own, ?_⟩
      cases rest with
      | nil => exact Text.singleLine_nil
      | cons other others =>
          have space : SingleLine [' '] := by decide
          exact Text.singleLine_append.mpr ⟨space, later⟩

end Tag
end Gherkin
