import Gherkin.Proofs.Reading.Rules
import Gherkin.Proofs.Classification
import Gherkin.Proofs.Table.Writing
import Gherkin.Proofs.Text.Lines

namespace Gherkin

open Text (isSpace isBlank trim trimEnd trimStart)

/-!
# Whitespace at the end of a line

Outside of doc-strings and comments it makes no difference what whitespace ends a
line.  Most of what is made of a line is made of its trimmed text, but directives,
tags and rows are read from the line as it is, character by character, and their
places are counted along it.
-/

namespace Text

variable {text blank : Text}

theorem isBlank_trimEnd (text : Text) : isBlank (trimEnd text) = isBlank text := by
  rcases exists_trimEnd text with ⟨after, white, same⟩
  conv_rhs => rw [same]
  rw [isBlank_append, white, Bool.and_true]

theorem indent_append_right (solid : text.isBlank = false) (rest : Text) :
    (text ++ rest).indent = text.indent := by
  rcases exists_trimStart text with ⟨before, margin, same⟩
  have present : trimStart text ≠ [] := fun none =>
    Bool.eq_false_iff.mp solid (trimStart_eq_nil_iff.mp none)
  have starts : StartsSolid (trimStart text ++ rest) :=
    startsSolid_append (startsSolid_trimStart text) present
  conv_lhs => rw [same, List.append_assoc, indent_append margin starts]
  conv_rhs => rw [same, indent_append margin (startsSolid_trimStart text)]

theorem indent_trimEnd (solid : text.isBlank = false) : (trimEnd text).indent = text.indent := by
  rcases exists_trimEnd text with ⟨after, -, same⟩
  conv_rhs => rw [same]
  exact (indent_append_right ((isBlank_trimEnd text).trans solid) after).symm

theorem not_mem_of_isBlank {character : Char} (solid : isSpace character = false)
    (white : blank.isBlank = true) : character ∉ blank := fun listed =>
  Bool.eq_false_iff.mp solid (isBlank_iff.mp white character listed)

/-- What is made of a text does not depend on the whitespace at its end. -/
def IgnoresEnd {α : Type} (read : Text → α) : Prop :=
  ∀ text blank, isBlank blank = true → read (text ++ blank) = read text

theorem IgnoresEnd.eq_of_trimEnd {α : Type} {read : Text → α} (ignores : IgnoresEnd read)
    {other : Text} (same : trimEnd other = trimEnd text) : read other = read text := by
  rcases exists_trimEnd text with ⟨after, white, whole⟩
  rcases exists_trimEnd other with ⟨afterOther, whiteOther, wholeOther⟩
  rw [whole, wholeOther, ignores _ _ white, ignores _ _ whiteOther, same]

end Text

/-! ## Directives -/

namespace Language

variable {mark text blank : Text}

private theorem isPrefixOf?_append_blank (solid : mark.any isSpace = false)
    (white : blank.isBlank = true) :
    mark.isPrefixOf? (text ++ blank) = (mark.isPrefixOf? text).map (· ++ blank) := by
  induction mark generalizing text with
  | nil => rfl
  | cons first rest inductionHypothesis =>
      rw [List.any_cons, Bool.or_eq_false_iff] at solid
      cases text with
      | nil =>
          cases blank with
          | nil => rfl
          | cons space others =>
              have different : first ≠ space := by
                rintro rfl
                exact Text.not_mem_of_isBlank solid.1 white List.mem_cons_self
              simp [List.isPrefixOf?, different]
      | cons character others =>
          simp only [List.cons_append, List.isPrefixOf?, inductionHypothesis solid.2]
          split <;> rfl

/-- What is read behind a mark ignores whitespace at the end if what is read then does. -/
private theorem ignoresEnd_bind {α : Type} {read : Text → Option α}
    (solid : mark.any isSpace = false) (ignores : Text.IgnoresEnd read) :
    Text.IgnoresEnd fun text => (mark.isPrefixOf? (trimStart text)).bind read := by
  intro text blank white
  have start : trimStart (text ++ blank) = trimStart text ∨
      trimStart (text ++ blank) = trimStart text ++ blank := by
    cases allWhite : text.isBlank with
    | true =>
        rw [Text.trimStart_append_of_isBlank allWhite, Text.trimStart_eq_nil_iff.mpr white,
          Text.trimStart_eq_nil_iff.mpr allWhite]
        exact .inl rfl
    | false =>
        have present : (trimStart text).isEmpty = false := by
          rw [List.isEmpty_eq_false_iff, ne_eq, Text.trimStart_eq_nil_iff, allWhite]
          decide
        rw [trimStart, List.dropWhile_append, ← trimStart, present]
        exact .inr rfl
  rcases start with same | same
  · simp only [same]
  · simp only [same, isPrefixOf?_append_blank solid white, Option.bind_map, Function.comp_def,
      ignores _ blank white]

theorem directive?_ignoresEnd : Text.IgnoresEnd directive? := by
  refine ignoresEnd_bind (by decide) ?_
  refine ignoresEnd_bind (by decide) ?_
  refine ignoresEnd_bind (by decide) ?_
  intro text blank white
  simp only [Text.trim_append_right white]

end Language

/-! ## Tags -/

namespace Tag

variable {text blank : Text}

private theorem beforeComment_of_isBlank (afterSpace : Bool) (white : blank.isBlank = true) :
    beforeComment afterSpace blank = blank := by
  have absent : '#' ∉ blank := Text.not_mem_of_isBlank (by decide) white
  clear white
  induction blank generalizing afterSpace with
  | nil => rfl
  | cons first rest inductionHypothesis =>
      rw [List.mem_cons, not_or] at absent
      have unmarked : (first == '#') = false := beq_false_of_ne (Ne.symm absent.1)
      rw [beforeComment, unmarked, Bool.and_false, if_neg (by decide), inductionHypothesis _ absent.2]

/-- Either a comment takes the whitespace at the end, or there is no comment. -/
private theorem beforeComment_append_blank (afterSpace : Bool) (white : blank.isBlank = true)
    (text : Text) :
    beforeComment afterSpace (text ++ blank) = beforeComment afterSpace text ∨
      (beforeComment afterSpace text = text ∧
        beforeComment afterSpace (text ++ blank) = text ++ blank) := by
  induction text generalizing afterSpace with
  | nil => exact .inr ⟨rfl, beforeComment_of_isBlank afterSpace white⟩
  | cons first rest inductionHypothesis =>
      rw [List.cons_append, beforeComment, beforeComment]
      split_ifs with comment
      · exact .inl rfl
      · rcases inductionHypothesis (isSpace first) with same | ⟨whole, same⟩
        · exact .inl (by rw [same])
        · exact .inr ⟨by rw [whole], by rw [same]⟩

private theorem intercalate_concat_append (mark : Text) (parts : List Text) (last : Text) :
    mark.intercalate (parts ++ [last ++ blank]) = mark.intercalate (parts ++ [last]) ++ blank := by
  induction parts with
  | nil => simp
  | cons first rest inductionHypothesis =>
      rw [List.cons_append, List.cons_append, List.intercalate_cons_of_ne_nil (by simp),
        List.intercalate_cons_of_ne_nil (by simp), inductionHypothesis]
      simp only [List.append_assoc]

/-- Whitespace at the end belongs to the last piece. -/
private theorem exists_splitOn_append_blank (white : blank.isBlank = true) (text : Text) :
    ∃ parts last, text.splitOn '@' = parts ++ [last] ∧
      (text ++ blank).splitOn '@' = parts ++ [last ++ blank] := by
  rcases List.eq_nil_or_concat (text.splitOn '@') with none | ⟨parts, last, cut⟩
  · exact absurd none (List.splitOn_ne_nil '@' text)
  rw [List.concat_eq_append] at cut
  have unmarked : ∀ piece ∈ parts ++ [last], '@' ∉ piece := by
    intro piece listed
    rw [← cut] at listed
    exact Text.not_mem_of_mem_splitOn listed
  have whole : ['@'].intercalate (parts ++ [last]) = text := by rw [← cut, List.intercalate_splitOn]
  refine ⟨parts, last, cut, ?_⟩
  conv_lhs => rw [← whole, ← intercalate_concat_append]
  refine List.splitOn_intercalate '@' ?_ (by simp)
  intro piece listed
  rcases List.mem_append.mp listed with among | final
  · exact unmarked piece (List.mem_append_left _ among)
  · rw [List.mem_singleton.mp final, List.mem_append, not_or]
    exact ⟨unmarked last (List.mem_append_right _ List.mem_cons_self),
      Text.not_mem_of_isBlank (by decide) white⟩

private theorem map_placePieces_append (offset : Nat) (parts : List Text) (last : Text)
    (white : blank.isBlank = true) :
    (placePieces offset (parts ++ [last ++ blank])).map (Prod.map id trim) =
      (placePieces offset (parts ++ [last])).map (Prod.map id trim) := by
  induction parts generalizing offset with
  | nil => simp [placePieces, Text.trim_append_right white]
  | cons first rest inductionHypothesis =>
      simp only [List.cons_append, placePieces, List.map_cons, inductionHypothesis]

/-- The trimmed pieces of a tag line and their offsets. -/
theorem pieces_ignoresEnd : Text.IgnoresEnd fun text => (pieces text).map (Prod.map id trim) := by
  intro text blank white
  rcases beforeComment_append_blank false white text with same | ⟨whole, same⟩
  · simp only [pieces, same]
  · rcases exists_splitOn_append_blank white text with ⟨parts, last, cut, cutLonger⟩
    simp only [pieces, same, whole, cut, cutLonger]
    cases parts with
    | nil => rfl
    | cons lead rest => exact map_placePieces_append lead.length rest last white

theorem onLine_eq (line : Line) :
    onLine line = ((pieces line.text).map (Prod.map id trim)).filterMap fun piece =>
      if piece.2.isEmpty || piece.2.any isSpace then none
      else some ⟨piece.2, line.locationAt piece.1⟩ := by
  rw [List.filterMap_map]
  rfl

theorem faultsOnLine_eq (line : Line) :
    faultsOnLine line = ((pieces line.text).map (Prod.map id trim)).filterMap fun piece =>
      if piece.2.any isSpace then some ⟨.spacedTag, line.locationAt piece.1⟩ else none := by
  rw [List.filterMap_map]
  rfl

end Tag

/-! ## Rows -/

namespace Row

variable {line other : Line} {text blank : Text}

private theorem cellsFrom_of_unbarred (draft : CellDraft) (offset : Nat) (unbarred : '|' ∉ text) :
    cellsFrom line draft offset text = [] := by
  induction draft, offset, text using cellsFrom.induct with
  | case1 draft offset => rw [cellsFrom]
  | case2 draft offset rest => exact absurd List.mem_cons_self unbarred
  | case3 draft offset => simp [cellsFrom]
  | case4 draft offset second others _ inductionHypothesis =>
      rw [cellsFrom_escape]
      exact inductionHypothesis fun listed =>
        unbarred (List.mem_cons_of_mem _ (List.mem_cons_of_mem _ listed))
  | case5 draft offset first rest noBar noEscape inductionHypothesis =>
      rw [cellsFrom_other noBar noEscape]
      exact inductionHypothesis fun listed => unbarred (List.mem_cons_of_mem _ listed)

private theorem finish_eq_of_number (same : other.number = line.number) (draft : CellDraft) (closing : Nat) :
    draft.finish other closing = draft.finish line closing := by
  cases draft <;> simp [CellDraft.finish, Line.locationAt, same]

private theorem cellsFrom_append_blank (line other : Line) (same : other.number = line.number)
    (white : blank.isBlank = true) (draft : CellDraft) (offset : Nat) (text : Text) :
    cellsFrom other draft offset (text ++ blank) = cellsFrom line draft offset text := by
  have unbarred : '|' ∉ blank := Text.not_mem_of_isBlank (by decide) white
  induction draft, offset, text using cellsFrom.induct with
  | case1 draft offset => rw [List.nil_append, cellsFrom_of_unbarred draft offset unbarred, cellsFrom]
  | case2 draft offset rest inductionHypothesis =>
      rw [List.cons_append, cellsFrom_bar, cellsFrom_bar, inductionHypothesis,
        finish_eq_of_number same]
  | case3 draft offset =>
      rw [cellsFrom_of_unbarred, cellsFrom_of_unbarred] <;> simp [unbarred]
  | case4 draft offset second others _ inductionHypothesis =>
      rw [List.cons_append, List.cons_append, cellsFrom_escape, cellsFrom_escape, inductionHypothesis]
  | case5 draft offset first rest noBar noEscape inductionHypothesis =>
      rw [List.cons_append, cellsFrom_other noBar noEscape, cellsFrom_other noBar noEscape,
        inductionHypothesis]

theorem barOffset_append_blank (solid : text.isBlank = false) (white : blank.isBlank = true)
    (number other : Nat) : barOffset ⟨text ++ blank, other⟩ = barOffset ⟨text, number⟩ := by
  have unbarred : '|' ∉ blank := Text.not_mem_of_isBlank (by decide) white
  by_cases barred : '|' ∈ text
  · have shorter : (text.takeWhile (· != '|')).length ≠ text.length := by
      intro same
      have whole := (List.takeWhile_prefix (· != '|')).eq_of_length same
      have kept := List.takeWhile_eq_self_iff.mp whole '|' barred
      simp at kept
    simp [barOffset, barred, List.takeWhile_append, shorter]
  · simp [barOffset, barred, unbarred, Line.indent, Text.indent_append_right solid]

theorem cellsOnLine_append_blank (solid : text.isBlank = false) (white : blank.isBlank = true)
    (number : Nat) : cellsOnLine ⟨text ++ blank, number⟩ = cellsOnLine ⟨text, number⟩ := by
  have unbarred : '|' ∉ blank := Text.not_mem_of_isBlank (by decide) white
  have none : blank.dropWhile (· != '|') = [] := by
    refine List.dropWhile_eq_nil_iff.mpr fun character listed => ?_
    exact bne_iff_ne.mpr fun same => unbarred (same ▸ listed)
  simp only [cellsOnLine, List.dropWhile_append, barOffset_append_blank solid white number number]
  cases found : text.dropWhile (· != '|') with
  | nil => simp [none]
  | cons bar body =>
      simp only [List.isEmpty_cons, Bool.false_eq_true, if_false, List.cons_append]
      exact cellsFrom_append_blank ⟨text, number⟩ ⟨text ++ blank, number⟩ rfl white .blank _ body

theorem barLocation_trimEnd (solid : text.isBlank = false) (number : Nat) :
    barLocation ⟨trimEnd text, number⟩ = barLocation ⟨text, number⟩ := by
  rcases Text.exists_trimEnd text with ⟨after, white, same⟩
  have kept := (Text.isBlank_trimEnd text).trans solid
  conv_rhs => rw [same]
  simp only [barLocation, Line.locationAt, barOffset_append_blank kept white number number]

theorem onLine_trimEnd (solid : text.isBlank = false) (number : Nat) :
    onLine ⟨trimEnd text, number⟩ = onLine ⟨text, number⟩ := by
  rcases Text.exists_trimEnd text with ⟨after, white, same⟩
  have kept := (Text.isBlank_trimEnd text).trans solid
  have cells := cellsOnLine_append_blank kept white number
  rw [← same] at cells
  simp only [onLine, cells, barLocation_trimEnd solid]

end Row

end Gherkin
