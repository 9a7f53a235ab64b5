import Gherkin.Parse
import Gherkin.Proofs.Text.Trimming
import Mathlib.Tactic.SplitIfs

namespace Gherkin
namespace Text

/-!
# Lines of texts and files

Cutting a text at its newlines undoes both ways to put lines together, as long
as the lines have no newline themselves.  Lines between blank lines are found
again by leaving the blank lines out at both ends.

So a file is read like the lines it was written from.  A byte-order mark in front of
it makes no difference.  The newline at its end makes one only if nothing stands
between it and the newline before: the empty last line is there because of it.
-/

/-- A text without a newline, which is one line of a file. -/
def SingleLine (text : Text) : Prop :=
  '\n' ∉ text

instance singleLineDecidable (text : Text) : Decidable (SingleLine text) :=
  inferInstanceAs (Decidable ('\n' ∉ text))

@[simp] theorem singleLine_nil : SingleLine [] :=
  List.not_mem_nil

@[simp] theorem singleLine_append {first second : Text} :
    SingleLine (first ++ second) ↔ SingleLine first ∧ SingleLine second := by
  simp [SingleLine, List.mem_append, not_or]

theorem SingleLine.of_subset {text part : Text} (single : SingleLine text)
    (kept : ∀ character ∈ part, character ∈ text) : SingleLine part :=
  fun listed => single (kept _ listed)

theorem mem_of_mem_trim {character : Char} {text : Text} (listed : character ∈ trim text) :
    character ∈ text := by
  rcases exists_trim text with ⟨before, after, -, -, same⟩
  rw [same]
  exact List.mem_append_left _ (List.mem_append_right _ listed)

theorem SingleLine.trim {text : Text} (single : SingleLine text) : SingleLine (trim text) :=
  single.of_subset fun _ => mem_of_mem_trim

theorem SingleLine.trimEnd {text : Text} (single : SingleLine text) : SingleLine (trimEnd text) := by
  rcases exists_trimEnd text with ⟨after, -, same⟩
  rw [same] at single
  exact (singleLine_append.mp single).1

theorem SingleLine.unindent {text : Text} (single : SingleLine text) (count : Nat) :
    SingleLine (unindent count text) := by
  rcases exists_unindent count text with ⟨before, -, same⟩
  rw [same] at single
  exact (singleLine_append.mp single).2

theorem singleLine_margin (count : Nat) : SingleLine (List.replicate count ' ') :=
  fun listed => absurd (List.eq_of_mem_replicate listed) (by decide)

/-! ## Cutting at newlines -/

theorem not_mem_of_mem_splitOn {mark : Char} {text piece : Text} (listed : piece ∈ text.splitOn mark) :
    mark ∉ piece := by
  induction text generalizing piece with
  | nil =>
      rw [List.splitOn_nil] at listed
      rw [List.mem_singleton.mp listed]
      exact List.not_mem_nil
  | cons first rest inductionHypothesis =>
      rw [List.splitOn_cons_eq_if_modifyHead] at listed
      split_ifs at listed with marked
      · rcases List.mem_cons.mp listed with rfl | listed
        · exact List.not_mem_nil
        · exact inductionHypothesis listed
      · cases pieces : rest.splitOn mark with
        | nil => exact absurd pieces (List.splitOn_ne_nil mark rest)
        | cons head tail =>
            rw [pieces] at listed inductionHypothesis
            rcases List.mem_cons.mp listed with rfl | listed
            · intro found
              rcases List.mem_cons.mp found with rfl | found
              · simp at marked
              · exact inductionHypothesis List.mem_cons_self found
            · exact inductionHypothesis (List.mem_cons_of_mem _ listed)

/-- Of the two ways to put lines together one has a newline more. -/
theorem endLines_eq_append {parts : List Text} (present : parts ≠ []) :
    endLines parts = joinLines parts ++ ['\n'] := by
  induction parts with
  | nil => exact absurd rfl present
  | cons part rest inductionHypothesis =>
      cases rest with
      | nil => simp [endLines, joinLines]
      | cons other others =>
          have later := inductionHypothesis (List.cons_ne_nil _ _)
          simp only [endLines, joinLines, List.flatMap_cons, List.intercalate_cons_cons] at later ⊢
          rw [later]
          simp

theorem lines_joinLines {parts : List Text} (single : ∀ part ∈ parts, SingleLine part)
    (present : parts ≠ []) : lines (joinLines parts) = parts :=
  List.splitOn_intercalate '\n' single present

theorem splitOn_endLines {parts : List Text} (single : ∀ part ∈ parts, SingleLine part) :
    (endLines parts).splitOn '\n' = parts ++ [[]] := by
  induction parts with
  | nil => rfl
  | cons part rest inductionHypothesis =>
      have step : endLines (part :: rest) = part ++ '\n' :: endLines rest := by simp [endLines]
      rw [step, List.splitOn_append_cons_self_of_not_mem (single part List.mem_cons_self),
        inductionHypothesis fun other listed => single other (List.mem_cons_of_mem _ listed)]
      rfl

/-- Lines that are written are told apart. -/
theorem endLines_inj {parts others : List Text} (single : ∀ part ∈ parts, SingleLine part)
    (among : ∀ part ∈ others, SingleLine part) : endLines parts = endLines others ↔ parts = others := by
  constructor
  · intro same
    have pieces := congrArg (List.splitOn '\n') same
    rw [splitOn_endLines single, splitOn_endLines among] at pieces
    exact List.append_cancel_right pieces
  · intro same
    rw [same]

/-! ## Lines between blank lines -/

/-- Lines of which neither the first nor the last is blank. -/
def Inner (parts : List Text) : Prop :=
  (∀ first ∈ parts.head?, isBlank first = false) ∧ ∀ last ∈ parts.getLast?, isBlank last = false

theorem innerLines_eq (parts : List Text) :
    innerLines parts = (parts.dropWhile isBlank).rdropWhile isBlank :=
  rfl

theorem mem_of_mem_innerLines {part : Text} {parts : List Text} (listed : part ∈ innerLines parts) :
    part ∈ parts := by
  rw [innerLines_eq] at listed
  exact (List.dropWhile_suffix isBlank).subset ((List.rdropWhile_prefix isBlank _).subset listed)

theorem innerLines_eq_self {parts : List Text} (inner : Inner parts) : innerLines parts = parts := by
  have whole : parts.dropWhile isBlank = parts := by
    cases parts with
    | nil => rfl
    | cons first rest => exact List.dropWhile_cons_of_neg (by simp [inner.1 first rfl])
  rw [innerLines_eq, whole, List.rdropWhile_eq_self_iff]
  intro present
  simp [inner.2 _ (List.getLast?_eq_getLast_of_ne_nil present)]

theorem inner_innerLines (parts : List Text) : Inner (innerLines parts) := by
  rw [innerLines_eq]
  constructor
  · intro first found
    rcases List.rdropWhile_prefix isBlank (parts.dropWhile isBlank) with ⟨rest, same⟩
    have start : first ∈ (parts.dropWhile isBlank).head? := by
      rw [← same, List.head?_append, found]
      rfl
    have solid := List.head?_dropWhile_not isBlank parts
    rwa [start] at solid
  · intro last found
    have present : (parts.dropWhile isBlank).rdropWhile isBlank ≠ [] := by
      intro none
      rw [none] at found
      cases found
    rw [List.getLast?_eq_getLast_of_ne_nil present] at found
    cases found
    exact Bool.eq_false_iff.mpr (List.rdropWhile_last_not isBlank _ present)

@[simp] theorem innerLines_innerLines (parts : List Text) :
    innerLines (innerLines parts) = innerLines parts :=
  innerLines_eq_self (inner_innerLines parts)

/-- Blank lines behind the last line that is not blank make no difference. -/
theorem innerLines_append_blank {parts trailing : List Text}
    (blank : ∀ part ∈ trailing, isBlank part = true) :
    innerLines (parts ++ trailing) = innerLines parts := by
  have dropped (kept : List Text) : (kept ++ trailing).rdropWhile isBlank = kept.rdropWhile isBlank := by
    unfold List.rdropWhile
    rw [List.reverse_append, List.dropWhile_append_of_pos]
    simpa only [List.mem_reverse] using blank
  rw [innerLines_eq, innerLines_eq, List.dropWhile_append]
  split_ifs with allBlank
  · have none : parts.dropWhile isBlank = [] := by simpa using allBlank
    rw [none, List.dropWhile_eq_nil_iff.mpr blank]
  · exact dropped _

theorem innerLines_map {change : Text → Text} (same : ∀ part, isBlank (change part) = isBlank part)
    (parts : List Text) : innerLines (parts.map change) = (innerLines parts).map change := by
  have blank : isBlank ∘ change = isBlank := funext same
  simp only [innerLines, List.dropWhile_map, ← List.map_reverse, blank]

theorem joinLines_innerLines_eq_nil_iff {parts : List Text} :
    joinLines (innerLines parts) = [] ↔ innerLines parts = [] := by
  cases kept : innerLines parts with
  | nil => simp [joinLines]
  | cons first rest =>
      have solid : isBlank first = false := (inner_innerLines parts).1 first (by rw [kept]; rfl)
      have present : first ≠ [] := by
        rintro rfl
        cases solid
      cases rest <;> simp [joinLines, present]

end Text

open Text

/-- No line of a file has a newline. -/
theorem singleLine_of_mem_fileLines {source line : Text} (listed : line ∈ fileLines source) :
    SingleLine line := by
  simp only [fileLines] at listed
  split_ifs at listed
  · exact not_mem_of_mem_splitOn (List.dropLast_subset _ listed)
  · exact not_mem_of_mem_splitOn listed

/-- A file starts with a byte-order mark only if its first line does. -/
theorem head?_endLines {parts : List Text}
    (unmarked : ∀ first ∈ parts.head?, first.head? ≠ some byteOrderMark) :
    (endLines parts).head? ≠ some byteOrderMark := by
  cases parts with
  | nil => exact nofun
  | cons first rest =>
      have whole := unmarked first rfl
      cases first with
      | nil =>
          have newline : (endLines ([] :: rest)).head? = some '\n' := rfl
          rw [newline]
          decide
      | cons character others => exact whole

/-- A file is cut at its newlines, whether or not a byte-order mark stands in front of it. -/
theorem fileLines_append {mark source : Text} (optional : mark ∈ [[], [byteOrderMark]])
    (unmarked : source.head? ≠ some byteOrderMark) :
    fileLines (mark ++ source) =
      if (source.splitOn '\n').getLast? = some [] then (source.splitOn '\n').dropLast
      else source.splitOn '\n' := by
  have kept : ([byteOrderMark].isPrefixOf? (mark ++ source)).getD (mark ++ source) = source := by
    rcases List.mem_cons.mp optional with rfl | optional
    · cases source with
      | nil => rfl
      | cons first rest =>
          have other : (byteOrderMark == first) = false :=
            beq_false_of_ne fun same => unmarked (same ▸ rfl)
          simp only [List.nil_append, List.isPrefixOf?, other, Bool.false_eq_true, if_false,
            Option.getD_none]
    · rw [List.mem_singleton.mp optional]
      rfl
  simp only [fileLines, kept]

theorem fileLines_append_endLines {mark : Text} {parts : List Text}
    (optional : mark ∈ [[], [byteOrderMark]]) (single : ∀ part ∈ parts, SingleLine part)
    (unmarked : (endLines parts).head? ≠ some byteOrderMark) :
    fileLines (mark ++ endLines parts) = parts := by
  simp [fileLines_append optional unmarked, splitOn_endLines single]

/-- A file that was written line by line is read back as these lines, unless it starts with
a byte-order mark. -/
theorem fileLines_endLines {parts : List Text} (single : ∀ part ∈ parts, SingleLine part)
    (unmarked : (endLines parts).head? ≠ some byteOrderMark) : fileLines (endLines parts) = parts :=
  fileLines_append_endLines List.mem_cons_self single unmarked

/-- Without the newline at its end, the last line is lost if it is empty, and nothing otherwise. -/
theorem fileLines_append_dropLast {mark : Text} {parts : List Text}
    (optional : mark ∈ [[], [byteOrderMark]]) (single : ∀ part ∈ parts, SingleLine part)
    (unmarked : (endLines parts).head? ≠ some byteOrderMark) :
    fileLines (mark ++ (endLines parts).dropLast) =
      if parts.getLast? = some [] then parts.dropLast else parts := by
  by_cases present : parts = []
  · rw [present]
    exact fileLines_append optional (by decide)
  · rw [endLines_eq_append present] at unmarked ⊢
    rw [List.dropLast_concat]
    have start : (joinLines parts).head? ≠ some byteOrderMark := by
      intro found
      rw [List.head?_append, found] at unmarked
      exact unmarked rfl
    have cut : (joinLines parts).splitOn '\n' = parts := lines_joinLines single present
    rw [fileLines_append optional start, cut]

/-- Reading a file is reading its lines: those that were written, whether or not a byte-order mark
stands in front of them, and without the last newline all but a last line that is empty. -/
theorem parse_endLines (settings : Settings) (uri : Text) {parts : List Text}
    (single : ∀ part ∈ parts, SingleLine part)
    (unmarked : ∀ first ∈ parts.head?, first.head? ≠ some byteOrderMark)
    {mark : Text} (optional : mark ∈ [[], [byteOrderMark]]) :
    fileLines (mark ++ endLines parts) = parts ∧
    parse settings uri (mark ++ endLines parts) = parseLines settings uri parts ∧
    fileLines (mark ++ (endLines parts).dropLast) =
      (if parts.getLast? = some [] then parts.dropLast else parts) ∧
    parse settings uri (mark ++ (endLines parts).dropLast) =
      parseLines settings uri (if parts.getLast? = some [] then parts.dropLast else parts) := by
  have ended := fileLines_append_endLines optional single (head?_endLines unmarked)
  have unended := fileLines_append_dropLast optional single (head?_endLines unmarked)
  exact ⟨ended, congrArg (parseLines settings uri) ended, unended,
    congrArg (parseLines settings uri) unended⟩

/-- A mark in front and an empty line at the end, once with its newline and once without. -/
theorem marked_source_parsed :
    (∀ part ∈ ["Feature: f".toList, []], SingleLine part) ∧
    (∀ first ∈ ["Feature: f".toList, []].head?, first.head? ≠ some byteOrderMark) ∧
    [byteOrderMark] ∈ [[], [byteOrderMark]] ∧
    parse .standard [] "\ufeffFeature: f\n\n".toList =
      parseLines .standard [] ["Feature: f".toList, []] ∧
    parse .standard [] "\ufeffFeature: f\n".toList =
      parseLines .standard [] ["Feature: f".toList] := by
  have single : ∀ part ∈ ["Feature: f".toList, []], SingleLine part := by decide
  have unmarked : ∀ first ∈ ["Feature: f".toList, []].head?, first.head? ≠ some byteOrderMark := by
    decide
  have optional : [byteOrderMark] ∈ [[], [byteOrderMark]] := by decide
  have ended : "\ufeffFeature: f\n\n".toList = [byteOrderMark] ++ endLines ["Feature: f".toList, []] := by
    decide
  have unended : "\ufeffFeature: f\n".toList =
      [byteOrderMark] ++ (endLines ["Feature: f".toList, []]).dropLast := by decide
  rcases parse_endLines .standard [] single unmarked optional with ⟨-, read, -, shorter⟩
  rw [ended, unended]
  exact ⟨single, unmarked, optional, read, shorter⟩

/-! ## The first line of a file -/

/-- The first line of a file. -/
def firstLine (source : Text) : Text :=
  (([byteOrderMark].isPrefixOf? source).getD source).takeWhile (· != '\n')

theorem Text.takeWhile_of_not_mem {mark : Char} {text : Text} (absent : mark ∉ text) :
    text.takeWhile (· != mark) = text := by
  rw [List.takeWhile_eq_self_iff]
  intro character listed
  rw [bne_iff_ne]
  rintro rfl
  exact absent listed

theorem firstLine_cons {first : Char} (unmarked : first ≠ byteOrderMark) (single : first ≠ '\n')
    (rest : Text) : firstLine (first :: rest) = first :: rest.takeWhile (· != '\n') := by
  have other : (byteOrderMark == first) = false := beq_false_of_ne unmarked.symm
  have goesOn : (first != '\n') = true := by simpa using single
  simp only [firstLine, List.isPrefixOf?, other, Bool.false_eq_true, if_false, Option.getD_none,
    List.takeWhile_cons, goesOn, if_true]

/-- The piece in front of the first newline ends there. -/
theorem Text.exists_splitOn_eq (text rest : Text) :
    ∃ piece pieces, (text ++ '\n' :: rest).splitOn '\n' = text.takeWhile (· != '\n') :: piece :: pieces := by
  have single : SingleLine (text.takeWhile (· != '\n')) := fun listed =>
    absurd (List.mem_takeWhile_imp listed) (by decide)
  have cut (behind : Text) : ∃ piece pieces, (text.takeWhile (· != '\n') ++ '\n' :: behind).splitOn '\n' =
      text.takeWhile (· != '\n') :: piece :: pieces := by
    rw [List.splitOn_append_cons_self_of_not_mem single]
    rcases List.exists_cons_of_ne_nil (List.splitOn_ne_nil '\n' behind) with ⟨piece, pieces, same⟩
    exact ⟨piece, pieces, by rw [same]⟩
  have whole := List.takeWhile_append_dropWhile (p := (· != '\n')) (l := text)
  cases left : text.dropWhile (· != '\n') with
  | nil =>
      rw [left, List.append_nil] at whole
      have found := cut rest
      rwa [whole] at found ⊢
  | cons newline behind =>
      have same : newline = '\n' := by
        have ended := List.head?_dropWhile_not (· != '\n') text
        rw [left] at ended
        simpa using ended
      rw [left, same] at whole
      conv in text ++ _ => rw [← whole, List.append_assoc]
      exact cut _

theorem head?_fileLines_endLines (part : Text) (rest : List Text) :
    (fileLines (Text.endLines (part :: rest))).head? = some (firstLine part) := by
  have written : Text.endLines (part :: rest) = part ++ '\n' :: Text.endLines rest := by
    simp [Text.endLines]
  have unmarked : ([byteOrderMark].isPrefixOf? (part ++ '\n' :: Text.endLines rest)).getD
      (part ++ '\n' :: Text.endLines rest) =
        ([byteOrderMark].isPrefixOf? part).getD part ++ '\n' :: Text.endLines rest := by
    cases part with
    | nil => rfl
    | cons first others =>
        by_cases marked : byteOrderMark = first <;> simp [List.isPrefixOf?, marked]
  rcases Text.exists_splitOn_eq (([byteOrderMark].isPrefixOf? part).getD part) (Text.endLines rest) with
    ⟨piece, pieces, cut⟩
  simp only [fileLines, written, unmarked, cut]
  split_ifs <;> rfl

/-! ## Numbered lines -/

theorem Line.numberFrom_append (texts others : List Text) (first : Nat) :
    Line.numberFrom first (texts ++ others) =
      Line.numberFrom first texts ++ Line.numberFrom (first + texts.length) others := by
  induction texts generalizing first with
  | nil => rfl
  | cons text rest inductionHypothesis =>
      rw [List.cons_append, Line.numberFrom, inductionHypothesis, Line.numberFrom, List.cons_append,
        List.length_cons, Nat.add_right_comm, Nat.add_assoc]

end Gherkin
