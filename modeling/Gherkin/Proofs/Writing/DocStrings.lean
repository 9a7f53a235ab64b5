import Gherkin.Proofs.DocString.Writing

namespace Gherkin
namespace DocString

open Text (Inner SingleLine joinLines)

/-!
# Which doc-strings are read back from their lines

The written lines of a doc-string are always taken as one doc-string: it is open
until the last of them and closed by it.  Its separator and its media type come back,
and so do the number of its lines and which of them are blank.

The content need not.  A backslash has no escape of its own, so a line that already
has an escaped separator is written as it is, and reading resolves what was never
escaped.  This is the only loss, and it spares the lines in which the last character
of the escaped separator starts a separator: that separator is escaped when the line
is written, which hides the backslashes in front of it.
-/

variable {separator : Text} {mark : Char} {opening : Opening}

theorem Triple.reread_eq_self_iff (triple : Triple separator mark) {line : Text} :
    reread separator line = line ↔ Escapable separator line :=
  triple.uniform.unescape_escape_iff

/-! ## The content and its lines -/

theorem singleLine_of_mem_contentLines {docString : DocString} {line : Text}
    (listed : line ∈ contentLines docString) : SingleLine line := by
  unfold contentLines at listed
  split_ifs at listed
  · exact absurd listed List.not_mem_nil
  · exact Text.not_mem_of_mem_splitOn listed

theorem joinLines_contentLines (docString : DocString) :
    joinLines (contentLines docString) = docString.content := by
  unfold contentLines
  split_ifs with empty
  · exact (List.isEmpty_iff.mp empty).symm
  · exact List.intercalate_splitOn '\n'

/-- Lines that are each changed to one line make the same text only if none was changed. -/
theorem joinLines_map_eq_iff {lines : List Text} {change : Text → Text}
    (single : ∀ line ∈ lines, SingleLine line) (changed : ∀ line ∈ lines, SingleLine (change line)) :
    joinLines (lines.map change) = joinLines lines ↔ ∀ line ∈ lines, change line = line := by
  constructor
  · intro same
    cases lines with
    | nil => exact fun line listed => absurd listed List.not_mem_nil
    | cons first rest =>
        have pieces := congrArg Text.lines same
        rw [Text.lines_joinLines (List.forall_mem_map.mpr changed) (List.cons_ne_nil _ _),
          Text.lines_joinLines single (List.cons_ne_nil _ _)] at pieces
        exact List.map_inj_left.mp (pieces.trans (List.map_id _).symm)
  · intro kept
    rw [List.map_congr_left kept, List.map_id']

/-! ## Reading the written lines -/

namespace Draft

/-- The doc-string in progress behind lines that are read one after the other. -/
def ofLines (separators : Separators) (lines : List Line) : Option Draft :=
  lines.foldl (extend separators) none

/-- Written lines of the content are read one by one, and the doc-string stays open. -/
theorem foldl_writtenLine (triple : Triple opening.separator mark) (separators : Separators)
    (body texts : List Text) (first : Nat) :
    (Line.numberFrom first (texts.map (writtenLine opening.indent opening.separator))).foldl
        (extend separators) (some ⟨opening, body, true⟩) =
      some ⟨opening, (texts.map (reread opening.separator)).reverse ++ body, true⟩ := by
  have within : ∀ line ∈ texts.map (writtenLine opening.indent opening.separator),
      ¬ opening.separator <+: line.trim :=
    List.forall_mem_map.mpr fun text _ => triple.not_prefix_writtenLine opening.indent text
  have read : opening.bodyLine ∘ writtenLine opening.indent opening.separator =
      reread opening.separator := funext triple.bodyLine_writtenLine
  rw [foldl_within separators within, List.map_map, read]

/-- The written opening line and lines of the content behind it leave the doc-string open. -/
theorem exists_ofLines (triple : Triple separator mark)
    (standard : separator ∈ [Separators.standard.primary, Separators.standard.alternative])
    {mediaType : Option Text} (nameable : ∀ given ∈ mediaType, Nameable given) (indent first : Nat) :
    ∃ opening : Opening, opening.separator = separator ∧ opening.mediaType = mediaType ∧
      ∀ texts : List Text, ofLines .standard (Line.numberFrom first
          ((List.replicate indent ' ' ++ (separator ++ mediaType.getD [])) ::
            texts.map (writtenLine indent separator))) =
        some ⟨opening, (texts.map (reread separator)).reverse, true⟩ := by
  rcases exists_opening standard nameable indent first with ⟨opening, opens, rfl, media, rfl⟩
  refine ⟨opening, rfl, media, fun texts => ?_⟩
  have started : extend .standard none
      ⟨List.replicate opening.indent ' ' ++ (opening.separator ++ mediaType.getD []), first⟩ =
      some ⟨opening, [], true⟩ := by
    rw [extend, opens]
    rfl
  rw [ofLines, Line.numberFrom, List.foldl_cons, started, foldl_writtenLine triple, List.append_nil]

end Draft

/-! ## The written doc-string -/

theorem layout_eq (docString : DocString) (indent : Nat) :
    docString.layout indent =
      ((List.replicate indent ' ' ++ (docString.separator ++ docString.mediaType.getD [])) ::
        (contentLines docString).map (writtenLine indent docString.separator)) ++
          [List.replicate indent ' ' ++ docString.separator] := by
  simp [layout]

/-- What is written is lines, each ended by a newline. -/
theorem fileLines_layout {docString : DocString}
    (standard : docString.separator ∈ [Separators.standard.primary, Separators.standard.alternative])
    (nameable : ∀ given ∈ docString.mediaType, Nameable given) (indent : Nat) :
    fileLines (Text.endLines (docString.layout indent)) = docString.layout indent := by
  rcases exists_triple_of_mem standard with ⟨mark, triple⟩
  have media : SingleLine (docString.mediaType.getD []) := by
    cases found : docString.mediaType with
    | none => exact Text.singleLine_nil
    | some given => exact (nameable given found).2.2
  have closing : SingleLine (List.replicate indent ' ' ++ docString.separator) :=
    Text.singleLine_append.mpr ⟨Text.singleLine_margin _, triple.singleLine⟩
  rw [layout_eq]
  refine fileLines_endLines ?_ (head?_endLines ?_)
  · intro text listed
    rcases List.mem_append.mp listed with listed | listed
    · rcases List.mem_cons.mp listed with rfl | listed
      · rw [← List.append_assoc]
        exact Text.singleLine_append.mpr ⟨closing, media⟩
      · rcases List.mem_map.mp listed with ⟨line, among, rfl⟩
        exact triple.singleLine_writtenLine indent (singleLine_of_mem_contentLines among)
    · rw [List.mem_singleton.mp listed]
      exact closing
  · intro text found
    cases found
    have unmarked : docString.separator.head? ≠ some byteOrderMark := by
      rcases List.mem_cons.mp standard with same | listed
      · rw [same]
        decide
      · rw [List.mem_singleton.mp listed]
        decide
    cases indent with
    | succ => exact fun marked => absurd (Option.some.inj marked) (by decide)
    | zero =>
        rw [List.replicate_zero, List.nil_append, List.head?_append_of_ne_nil _ triple.ne_nil]
        exact unmarked

/-- A doc-string with a standard separator, a media type that can be found again, and content
that is empty or has no blank line at its ends is written with lines of which the last one closes
it.  Its separator and media type come back, and its content exactly if every line of it is
`Escapable`. -/
theorem content_reread_iff (docString : DocString)
    (standard : docString.separator ∈ [Separators.standard.primary, Separators.standard.alternative])
    (nameable : ∀ given ∈ docString.mediaType, Nameable given)
    (inner : Inner (contentLines docString)) (indent first : Nat) :
    fileLines (Text.endLines (docString.layout indent)) = docString.layout indent ∧
    (∀ count, 0 < count → count < (docString.layout indent).length →
      inProgress (Draft.ofLines .standard
        (Line.numberFrom first ((docString.layout indent).take count))) = true) ∧
    ∃ draft, Draft.ofLines .standard (Line.numberFrom first (docString.layout indent)) = some draft ∧
      draft.isOpen = false ∧
      draft.finish.separator = docString.separator ∧
      draft.finish.mediaType = docString.mediaType ∧
      (draft.finish.content = docString.content ↔
        ∀ line ∈ contentLines docString, Escapable docString.separator line) := by
  rcases exists_triple_of_mem standard with ⟨mark, triple⟩
  rcases Draft.exists_ofLines triple standard nameable indent first with
    ⟨opening, separator, mediaType, opened⟩
  refine ⟨fileLines_layout standard nameable indent, ?_, ?_⟩
  · intro count positive proper
    -- A proper part of the lines has the opening line and some lines of the content.
    rcases Nat.exists_eq_succ_of_ne_zero (Nat.ne_of_gt positive) with ⟨count, rfl⟩
    rw [layout_eq] at proper ⊢
    rw [List.length_append, List.length_singleton] at proper
    rw [List.take_append_of_le_length (by omega), List.take_succ_cons, ← List.map_take, opened]
    rfl
  · have whole : Draft.ofLines .standard (Line.numberFrom first (docString.layout indent)) =
        some ⟨opening, ((contentLines docString).map (reread docString.separator)).reverse, false⟩ := by
      rw [layout_eq, Line.numberFrom_append, Draft.ofLines, List.foldl_append, ← Draft.ofLines, opened,
        ← separator]
      rw [← separator] at triple
      exact congrArg some (Draft.add_closing triple _ indent _)
    refine ⟨_, whole, rfl, separator, mediaType, ?_⟩
    have content : joinLines (Text.innerLines
        ((contentLines docString).map (reread docString.separator))) =
          joinLines ((contentLines docString).map (reread docString.separator)) := by
      rw [Text.innerLines_map triple.isBlank_reread, Text.innerLines_eq_self inner]
    rw [Draft.finish, List.reverse_reverse, content, ← joinLines_contentLines docString,
      joinLines_map_eq_iff (fun line => singleLine_of_mem_contentLines) fun line listed =>
        triple.singleLine_reread (singleLine_of_mem_contentLines listed)]
    exact forall₂_congr fun line _ => triple.reread_eq_self_iff

/-- Content with a separator, a blank line and a separator behind backslashes is read back. -/
theorem quoted_content_reread : ∃ docString : DocString,
    docString.separator ∈ [Separators.standard.primary, Separators.standard.alternative] ∧
    (∀ given ∈ docString.mediaType, Nameable given) ∧
    Inner (contentLines docString) ∧
    docString.layout 2 = ["  \"\"\"md".toList, "     \\\"\\\"\\\"".toList, " ".toList,
      "  \\\"\\\"\\\\\"\\\"\\\"".toList, "  \"\"\"".toList] ∧
    ∃ draft, Draft.ofLines .standard (Line.numberFrom 1 (docString.layout 2)) = some draft ∧
      draft.isOpen = false ∧ draft.finish.mediaType = some "md".toList ∧
      draft.finish.content = docString.content := by
  let docString : DocString :=
    ⟨"\"\"\"".toList, "   \"\"\"\n \n\\\"\\\"\\\"\"\"".toList, some "md".toList, ⟨1, 1⟩⟩
  have standard :
      docString.separator ∈ [Separators.standard.primary, Separators.standard.alternative] := by
    decide
  have nameable : ∀ given ∈ docString.mediaType, Nameable given := by
    rintro _ ⟨⟩
    exact ⟨by decide, ⟨by rintro _ ⟨⟩; rfl, by rintro _ ⟨⟩; rfl⟩, by decide⟩
  have inner : Inner (contentLines docString) := by
    constructor <;> rintro _ ⟨⟩ <;> rfl
  have escapable : ∀ line ∈ contentLines docString, Escapable docString.separator line := by
    decide
  rcases content_reread_iff docString standard nameable inner 2 1 with
    ⟨-, -, draft, read, closed, -, media, same⟩
  exact ⟨docString, standard, nameable, inner, by decide, draft, read, closed, media,
    same.mpr escapable⟩

/-- A separator that is already escaped in the content comes back without its backslashes. -/
theorem escaped_separator_lost : ∃ docString : DocString,
    docString.separator = Separators.standard.primary ∧ docString.mediaType = none ∧
    Inner (contentLines docString) ∧
    docString.content = "\\\"\\\"\\\"".toList ∧
    (Draft.ofLines .standard (Line.numberFrom 1 (docString.layout 0))).map
      (fun draft => draft.finish.content) = some "\"\"\"".toList := by
  refine ⟨⟨"\"\"\"".toList, "\\\"\\\"\\\"".toList, none, ⟨1, 1⟩⟩, rfl, rfl, ?_, rfl, by decide⟩
  constructor <;> rintro _ ⟨⟩ <;> rfl

end DocString
end Gherkin
