import Gherkin.Proofs.Text.Lines
import Gherkin.Text.Substitution

namespace Gherkin
namespace Text

/-!
# Substitution as a relation

`Replaces` says what substitution does from left to right, without a count of
characters to skip: an occurrence is exchanged as a whole, and a character at
which none starts is kept.  Facts about what came out of a substitution follow by
induction on this relation.
-/

/-- The second text is the first one with the occurrences of `old` exchanged for `new`. -/
inductive Replaces (old new : Text) : Text → Text → Prop
  | nil : Replaces old new [] []
  | found {rest result : Text} (later : Replaces old new rest result) :
      Replaces old new (old ++ rest) (new ++ result)
  | kept {first : Char} {rest result : Text} (absent : ¬ old <+: first :: rest)
      (later : Replaces old new rest result) : Replaces old new (first :: rest) (first :: result)

theorem replaceFrom_eq_drop (old new : Text) (skip : Nat) (text : Text) :
    replaceFrom old new skip text = replaceFrom old new 0 (text.drop skip) := by
  induction text generalizing skip with
  | nil => cases skip <;> simp [replaceFrom]
  | cons first rest inductionHypothesis =>
      cases skip with
      | zero => rfl
      | succ skip => rw [replaceFrom, List.drop_succ_cons, inductionHypothesis]

theorem replaceAll_append {old : Text} (present : old ≠ []) (new rest : Text) :
    replaceAll old new (old ++ rest) = new ++ replaceAll old new rest := by
  cases old with
  | nil => exact absurd rfl present
  | cons first tail =>
      have starts : (first :: tail).isPrefixOf (first :: (tail ++ rest)) = true :=
        List.isPrefixOf_iff_prefix.mpr ⟨rest, rfl⟩
      simp only [replaceAll, List.isEmpty_cons, Bool.false_eq_true, if_false, List.cons_append,
        replaceFrom, starts, if_true]
      rw [replaceFrom_eq_drop]
      simp

theorem replaceAll_cons {old : Text} {first : Char} {rest : Text} (new : Text)
    (absent : ¬ old <+: first :: rest) :
    replaceAll old new (first :: rest) = first :: replaceAll old new rest := by
  have present : old.isEmpty = false := by
    cases old with
    | nil => exact absurd List.nil_prefix absent
    | cons => rfl
  have starts : old.isPrefixOf (first :: rest) = false :=
    Bool.eq_false_iff.mpr fun found => absent (List.isPrefixOf_iff_prefix.mp found)
  simp only [replaceAll, present, Bool.false_eq_true, if_false, replaceFrom, starts]

/-- Substitution is described by the relation. -/
theorem replaces_replaceAll {old : Text} (present : old ≠ []) (new text : Text) :
    Replaces old new text (replaceAll old new text) := by
  -- Behind an occurrence the search goes on more than one character later.
  induction size : text.length using Nat.strong_induction_on generalizing text with
  | _ size inductionHypothesis =>
      cases text with
      | nil => simpa [replaceAll, replaceFrom] using Replaces.nil
      | cons first rest =>
          by_cases starts : old <+: first :: rest
          · rcases starts with ⟨behind, same⟩
            rw [← same, replaceAll_append present]
            refine .found (inductionHypothesis behind.length ?_ behind rfl)
            rw [← size, ← same, List.length_append]
            have positive := List.length_pos_iff.mpr present
            omega
          · rw [replaceAll_cons new starts]
            refine .kept starts (inductionHypothesis rest.length ?_ rest rfl)
            rw [← size, List.length_cons]
            omega

namespace Replaces

variable {old new text result : Text}

theorem eq_replaceAll (present : old ≠ []) (replaced : Replaces old new text result) :
    result = replaceAll old new text := by
  induction replaced with
  | nil => simp [replaceAll, replaceFrom]
  | found later inductionHypothesis => rw [replaceAll_append present, ← inductionHypothesis]
  | kept absent later inductionHypothesis => rw [replaceAll_cons new absent, ← inductionHypothesis]

/-- Every character of the result was there before or was put in. -/
theorem mem_of_mem (replaced : Replaces old new text result) {character : Char}
    (listed : character ∈ result) : character ∈ new ∨ character ∈ text := by
  induction replaced with
  | nil => cases listed
  | found later inductionHypothesis =>
      rcases List.mem_append.mp listed with put | listed
      · exact .inl put
      · exact (inductionHypothesis listed).imp_right (List.mem_append_right _)
  | kept absent later inductionHypothesis =>
      rcases List.mem_cons.mp listed with rfl | listed
      · exact .inr List.mem_cons_self
      · exact (inductionHypothesis listed).imp_right (List.mem_cons_of_mem _)

theorem singleLine (replaced : Replaces old new text result) (put : SingleLine new)
    (single : SingleLine text) : SingleLine result :=
  fun listed => (replaced.mem_of_mem listed).elim put single

/-- Texts that are not blank are exchanged without making a blank text of one that is not,
or the other way round. -/
theorem isBlank_eq (replaced : Replaces old new text result) (solidOld : old.isBlank = false)
    (solidNew : new.isBlank = false) : result.isBlank = text.isBlank := by
  induction replaced with
  | nil => rfl
  | found later inductionHypothesis => simp [solidOld, solidNew]
  | @kept first rest result absent later inductionHypothesis =>
      exact congrArg (isSpace first && ·) inductionHypothesis

/-- A last character that is none of `old` is kept, and what is before it is treated alone. -/
theorem concat (replaced : Replaces old new text result) (present : old ≠ []) {last : Char}
    (absent : last ∉ old) : Replaces old new (text ++ [last]) (result ++ [last]) := by
  have unfinished {before : Text} (none : ¬ old <+: before) : ¬ old <+: before ++ [last] := by
    intro found
    rcases List.prefix_concat_iff.mp found with same | found
    · exact absent (same ▸ List.mem_append_right _ List.mem_cons_self)
    · exact none found
  induction replaced with
  | nil => exact .kept (unfinished fun found => present (List.prefix_nil.mp found)) .nil
  | found later inductionHypothesis =>
      rw [List.append_assoc, List.append_assoc]
      exact .found inductionHypothesis
  | kept none later inductionHypothesis => exact .kept (unfinished none) inductionHypothesis

/-- Whitespace at the start of a text is kept, and the rest is treated alone. -/
theorem trimStart (replaced : Replaces old new text result) (presentOld : old ≠ [])
    (presentNew : new ≠ []) (solidOld : StartsSolid old) (solidNew : StartsSolid new) :
    Replaces old new text.trimStart result.trimStart := by
  induction replaced with
  | nil => exact .nil
  | @found rest result later inductionHypothesis =>
      rw [trimStart_eq_self_iff.mpr (startsSolid_append solidOld presentOld),
        trimStart_eq_self_iff.mpr (startsSolid_append solidNew presentNew)]
      exact .found later
  | @kept first rest result absent later inductionHypothesis =>
      cases space : isSpace first with
      | true => simpa [Text.trimStart, space] using inductionHypothesis
      | false =>
          rw [trimStart_eq_self_iff.mpr (startsSolid_cons.mpr space),
            trimStart_eq_self_iff.mpr (startsSolid_cons.mpr space)]
          exact .kept absent later

end Replaces

theorem singleLine_replaceAll {old new text : Text} (put : SingleLine new) (single : SingleLine text) :
    SingleLine (replaceAll old new text) := by
  by_cases empty : old = []
  · rw [replaceAll, empty]
    exact single
  · exact (replaces_replaceAll empty new text).singleLine put single

end Text
end Gherkin
