import Gherkin.DocString.Draft
import Gherkin.Layout.DocString
import Gherkin.Proofs.DocString.Escaping

namespace Gherkin
namespace DocString

open Text (EndsSolid SingleLine StartsSolid Trimmed)

/-!
# Written lines of a doc-string are read back

A written doc-string has three kinds of lines.  The first one opens a doc-string of
the same separator and media type, indented as it was written.  A line of the
content does not close it, and is read as what unescaping makes of the escaped line.
The last one closes it.  None of this depends on the width of the indentation.
-/

variable {separator : Text} {mediaType : Option Text} {mark : Char}

theorem Triple.trimmed (triple : Triple separator mark) : Trimmed separator := by
  rw [triple.eq]
  refine ⟨Text.startsSolid_cons.mpr triple.solid, ?_⟩
  intro last found
  cases found
  exact triple.solid

/-! ## The opening line -/

/-- A media type that is found again behind a separator. -/
def Nameable (mediaType : Text) : Prop :=
  mediaType ≠ [] ∧ Trimmed mediaType ∧ SingleLine mediaType

/-- Neither the separator nor the media type behind it has whitespace at its ends. -/
theorem Triple.trimmed_append (triple : Triple separator mark)
    (nameable : ∀ given ∈ mediaType, Nameable given) : Trimmed (separator ++ mediaType.getD []) := by
  refine ⟨Text.startsSolid_append triple.trimmed.1 triple.ne_nil, ?_⟩
  cases mediaType with
  | none => simpa using triple.trimmed.2
  | some given =>
      rcases nameable given rfl with ⟨present, solid, -⟩
      exact Text.endsSolid_append solid.2 present

theorem mediaType_eq (nameable : ∀ given ∈ mediaType, Nameable given) :
    (if (Text.trim (mediaType.getD [])).isEmpty then none else some (Text.trim (mediaType.getD []))) =
      mediaType := by
  cases mediaType with
  | none => rfl
  | some given =>
      rcases nameable given rfl with ⟨present, solid, -⟩
      rw [Option.getD_some, Text.trim_eq_self solid, if_neg (by simpa using present)]

/-- A standard separator is found again in front of every text. -/
theorem matching?_append
    (standard : separator ∈ [Separators.standard.primary, Separators.standard.alternative])
    (rest : Text) : Separators.standard.matching? (separator ++ rest) = some separator := by
  rcases List.mem_cons.mp standard with rfl | standard
  · simp [Separators.matching?, Separators.standard]
  · rw [List.mem_singleton.mp standard]
    simp [Separators.matching?, Separators.standard]

/-- The written opening line opens a doc-string of the same separator and media type. -/
theorem exists_opening
    (standard : separator ∈ [Separators.standard.primary, Separators.standard.alternative])
    (nameable : ∀ given ∈ mediaType, Nameable given) (indent number : Nat) :
    ∃ opening, Opening.onLine? .standard
        ⟨List.replicate indent ' ' ++ (separator ++ mediaType.getD []), number⟩ = some opening ∧
      opening.separator = separator ∧ opening.mediaType = mediaType ∧ opening.indent = indent := by
  rcases exists_triple_of_mem standard with ⟨mark, triple⟩
  have core := triple.trimmed_append nameable
  have trimmed : (⟨List.replicate indent ' ' ++ (separator ++ mediaType.getD []), number⟩ : Line).trimmed =
      separator ++ mediaType.getD [] := by
    rw [Line.trimmed, Text.trim_append_left (Text.isBlank_margin _), Text.trim_eq_self core]
  have indented : (⟨List.replicate indent ' ' ++ (separator ++ mediaType.getD []), number⟩ : Line).indent =
      indent := by
    rw [Line.indent, Text.indent_append (Text.isBlank_margin _) core.1, List.length_replicate]
  rw [Opening.onLine?, trimmed, matching?_append standard, Option.map_some, List.drop_left]
  exact ⟨_, rfl, rfl, mediaType_eq nameable, indented⟩

/-! ## Lines of the content -/

/-- What becomes of a line of the content that is escaped and unescaped. -/
def reread (separator line : Text) : Text :=
  unescape separator (escape separator line)

/-- Whitespace alone has no separator to escape. -/
theorem Triple.reread_of_isBlank (triple : Triple separator mark) {text : Text}
    (white : text.isBlank = true) : reread separator text = text :=
  triple.uniform.unescape_escape_iff.mpr (triple.uniform.escapable_of_isBlank white)

theorem Triple.isBlank_reread (triple : Triple separator mark) (line : Text) :
    (reread separator line).isBlank = line.isBlank := by
  have unescaped : (reread separator line).isBlank = (escape separator line).isBlank :=
    (triple.unescape_replaces _).isBlank_eq (by simp [Text.isBlank, triple.solid])
      (by simp [Text.isBlank, triple.solid])
  rw [unescaped, triple.isBlank_escape]

theorem Triple.singleLine_reread (triple : Triple separator mark) {line : Text}
    (single : SingleLine line) : SingleLine (reread separator line) :=
  triple.singleLine_unescape (triple.singleLine_escape single)

/-- A line of the content is read as what unescaping makes of its escaped form. -/
theorem Triple.bodyLine_writtenLine {opening : Opening} (triple : Triple opening.separator mark)
    (text : Text) :
    opening.bodyLine (writtenLine opening.indent opening.separator text) =
      reread opening.separator text := by
  cases white : text.isBlank with
  | true => rw [writtenLine, if_pos white, Opening.bodyLine, if_pos white, triple.reread_of_isBlank white]
  | false =>
      have solid : Text.isBlank (List.replicate opening.indent ' ' ++ escape opening.separator text) =
          false := by
        rw [Text.isBlank_append, Text.isBlank_margin, triple.isBlank_escape, white]
        rfl
      have margin := Text.unindent_append (Text.isBlank_margin opening.indent)
        (escape opening.separator text)
      rw [List.length_replicate] at margin
      rw [writtenLine, white, if_neg Bool.false_ne_true, Opening.bodyLine, solid,
        if_neg Bool.false_ne_true, margin, reread]

/-- A line of the content does not close the doc-string. -/
theorem Triple.not_prefix_writtenLine (triple : Triple separator mark) (indent : Nat) (text : Text) :
    ¬ separator <+: Text.trim (writtenLine indent separator text) := by
  cases white : text.isBlank with
  | true =>
      have nothing : Text.trim text = [] := Text.trim_eq_nil_iff.mpr white
      rw [writtenLine, if_pos white, nothing, List.prefix_nil]
      exact triple.ne_nil
  | false =>
      rw [writtenLine, white, if_neg Bool.false_ne_true, ← List.isPrefixOf_iff_prefix]
      exact Bool.eq_false_iff.mp (triple.not_isPrefixOf_escape (Text.isBlank_margin _) text)

theorem Triple.singleLine_writtenLine (triple : Triple separator mark) (indent : Nat) {text : Text}
    (single : SingleLine text) : SingleLine (writtenLine indent separator text) := by
  unfold writtenLine
  split_ifs
  · exact single
  · exact Text.singleLine_append.mpr ⟨Text.singleLine_margin _, triple.singleLine_escape single⟩

namespace Draft

variable {opening : Opening}

/-- A line that does not start with the separator is read as a line of the body. -/
theorem add_within {text : Text} (within : ¬ opening.separator <+: text.trim) (body : List Text)
    (number : Nat) :
    (⟨opening, body, true⟩ : Draft).add ⟨text, number⟩ =
      ⟨opening, opening.bodyLine text :: body, true⟩ := by
  have inside : (⟨text, number⟩ : Line).startsWith opening.separator = false :=
    Bool.eq_false_iff.mpr fun starts => within (List.isPrefixOf_iff_prefix.mp starts)
  simp only [add, inside, Bool.not_true, Bool.false_eq_true, if_false]

/-- Such lines are read one by one, and the doc-string stays open. -/
theorem foldl_within (separators : Separators) {texts : List Text}
    (within : ∀ text ∈ texts, ¬ opening.separator <+: text.trim) (body : List Text) (first : Nat) :
    (Line.numberFrom first texts).foldl (extend separators) (some ⟨opening, body, true⟩) =
      some ⟨opening, (texts.map opening.bodyLine).reverse ++ body, true⟩ := by
  induction texts generalizing body first with
  | nil => rfl
  | cons text rest inductionHypothesis =>
      rcases List.forall_mem_cons.mp within with ⟨here, behind⟩
      rw [Line.numberFrom, List.foldl_cons, extend, add_within here, inductionHypothesis behind,
        List.map_cons, List.reverse_cons, List.append_assoc, List.singleton_append]

theorem add_writtenLine (triple : Triple opening.separator mark) (body : List Text) (text : Text)
    (number : Nat) :
    (⟨opening, body, true⟩ : Draft).add
        ⟨writtenLine opening.indent opening.separator text, number⟩ =
      ⟨opening, reread opening.separator text :: body, true⟩ := by
  rw [add_within (triple.not_prefix_writtenLine opening.indent text), triple.bodyLine_writtenLine]

/-! ## The closing line -/

theorem add_closing (triple : Triple opening.separator mark) (body : List Text) (indent number : Nat) :
    (⟨opening, body, true⟩ : Draft).add ⟨List.replicate indent ' ' ++ opening.separator, number⟩ =
      ⟨opening, body, false⟩ := by
  have shut : (⟨List.replicate indent ' ' ++ opening.separator, number⟩ : Line).startsWith
      opening.separator = true := by
    rw [Line.startsWith, Line.trimmed, Text.trim_append_left (Text.isBlank_margin _),
      Text.trim_eq_self triple.trimmed]
    exact List.isPrefixOf_iff_prefix.mpr List.prefix_rfl
  simp [add, shut]

end Draft

end DocString
end Gherkin
