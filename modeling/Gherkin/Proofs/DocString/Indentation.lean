import Gherkin.Proofs.Classification
import Gherkin.Proofs.Writing.DocStrings

namespace Gherkin

open Text (StartsSolid isBlank joinLines innerLines)

/-!
# Doc-strings that are indented further

A doc-string keeps the indentation of its lines only so far as it goes beyond that of the
opening line.  So a whole block can be moved to the right without a change to its content,
whichever whitespace characters are put in front of its lines.

Blank lines are the exception.  They are kept as they are written, so those between other
lines of the content keep the whitespace that was put in front of them.  This does not decide
which lines are kept, because a line of the body is blank exactly if what is left of it is.
-/

namespace Text

/-- Whitespace in front of a text adds to its indentation. -/
theorem indent_margin_append {margin : Text} (white : margin.isBlank = true) (text : Text) :
    indent (margin ++ text) = margin.length + indent text := by
  rw [indent, List.takeWhile_append_of_pos (isBlank_iff.mp white), List.length_append, indent]

/-- Unindenting takes away whitespace up to the given count. -/
theorem unindent_eq_drop (count : Nat) (text : Text) :
    unindent count text = text.drop (min text.indent count) := by
  induction count generalizing text with
  | zero => simp [unindent]
  | succ count inductionHypothesis =>
      cases text with
      | nil => rfl
      | cons first rest =>
          rw [unindent]
          cases space : isSpace first with
          | false => simp [indent, space]
          | true =>
              have deeper : indent (first :: rest) = indent rest + 1 := by simp [indent, space]
              rw [if_pos rfl, inductionHypothesis, deeper, Nat.succ_min_succ, List.drop_succ_cons]

end Text

namespace DocString

variable {separators : Separators} {separator opening closing margin : Text} {body : List Text}

/-! ## Lines of the body -/

/-- What is left of a body line below an opening line of the given indentation.  It loses as
much of its own indentation as the opening line has, unless it is blank. -/
def keptLine (separator : Text) (indent : Nat) (text : Text) : Text :=
  if text.isBlank then text else unescape separator (text.drop (min text.indent indent))

/-- A line of the content as it is in a block that is indented further by a margin. -/
def reindented (margin line : Text) : Text :=
  if line.isBlank then margin ++ line else line

theorem Opening.bodyLine_eq_keptLine (opening : Opening) :
    opening.bodyLine = keptLine opening.separator opening.indent := by
  funext text
  rw [bodyLine, keptLine, Text.unindent_eq_drop]

theorem isBlank_reindented (white : margin.isBlank = true) (line : Text) :
    (reindented margin line).isBlank = line.isBlank := by
  unfold reindented
  split_ifs with blank
  · rw [Text.isBlank_append, white, Bool.true_and]
  · rfl

/-- A separator that is found on a line does not start with whitespace. -/
theorem startsSolid_of_matching? (opens : separators.matching? opening.trim = some separator) :
    StartsSolid separator ∧ separator ≠ [] := by
  rcases Separators.prefix_of_matching? opens with ⟨present, rest, same⟩
  refine ⟨?_, present⟩
  have solid := (Text.trimmed_trim opening).1
  rw [← same] at solid
  intro first found
  refine solid first ?_
  rw [List.head?_append, found]
  rfl

/-- Resolving escaped separators does not make a blank line of one that is not. -/
theorem isBlank_unescape (solid : StartsSolid separator) (present : separator ≠ []) (line : Text) :
    (unescape separator line).isBlank = line.isBlank := by
  rcases List.exists_cons_of_ne_nil present with ⟨first, rest, rfl⟩
  have visible := Text.startsSolid_cons.mp solid
  refine (Text.replaces_replaceAll ?_ _ line).isBlank_eq ?_ ?_
  · exact List.cons_ne_nil _ _
  · simp [isBlank, escapedSeparator, visible]
  · simp [isBlank, visible]

theorem isBlank_keptLine (solid : StartsSolid separator) (present : separator ≠ []) (indent : Nat)
    (text : Text) : (keptLine separator indent text).isBlank = text.isBlank := by
  unfold keptLine
  split_ifs with blank
  · rfl
  · rw [isBlank_unescape solid present, ← Text.unindent_eq_drop]
    -- What unindenting takes away is blank, so the rest is not.
    rcases Text.exists_unindent indent text with ⟨before, white, same⟩
    conv_rhs => rw [same, Text.isBlank_append, white, Bool.true_and]

/-- A body line below an opening line loses the same in a block that is indented further. -/
theorem keptLine_margin_append (solid : StartsSolid separator) (present : separator ≠ [])
    (white : margin.isBlank = true) (opening text : Text) :
    keptLine separator (margin ++ opening).indent (margin ++ text) =
      reindented margin (keptLine separator opening.indent text) := by
  have same := isBlank_keptLine solid present opening.indent text
  rw [reindented, same]
  cases blank : text.isBlank with
  | true => simp [keptLine, blank, white]
  | false =>
      have lost : min (margin ++ text).indent (margin ++ opening).indent =
          margin.length + min text.indent opening.indent := by
        rw [Text.indent_margin_append white, Text.indent_margin_append white]
        omega
      have whole : (margin ++ text).isBlank = false := by
        rw [Text.isBlank_append, blank, Bool.and_false]
      rw [keptLine, whole, if_neg Bool.false_ne_true, lost, List.drop_length_add_append, keptLine,
        blank, if_neg Bool.false_ne_true, if_neg Bool.false_ne_true]

/-! ## Blocks -/

/-- The media type behind the separator on a trimmed opening line. -/
def Opening.mediaType? (separator trimmed : Text) : Option Text :=
  let mediaType := Text.trim (trimmed.drop separator.length)
  if mediaType.isEmpty then none else some mediaType

/-- Apart from its place, an opening line gives its separator, its media type and its own
indentation. -/
theorem Opening.onLine?_of_matching? (opens : separators.matching? opening.trim = some separator)
    (number : Nat) : onLine? separators ⟨opening, number⟩ =
      some ⟨separator, mediaType? separator opening.trim, opening.indent,
        (⟨opening, number⟩ : Line).location⟩ := by
  rw [onLine?, Line.trimmed, opens]
  rfl

namespace Draft

/-- A block from an opening line to a closing line is read as one doc-string. -/
theorem exists_ofLines_block (opens : separators.matching? opening.trim = some separator)
    (within : ∀ text ∈ body, ¬ separator <+: text.trim) (closes : separator <+: closing.trim)
    (first : Nat) :
    ∃ draft, ofLines separators (Line.numberFrom first (opening :: body ++ [closing])) = some draft ∧
      draft.isOpen = false ∧ draft.finish.separator = separator ∧
      draft.finish.mediaType = Opening.mediaType? separator opening.trim ∧
      draft.finish.content =
        joinLines (innerLines (body.map (keptLine separator opening.indent))) := by
  have opened := Opening.onLine?_of_matching? opens first
  generalize (⟨opening, first⟩ : Line).location = location at opened
  have begun : extend separators none ⟨opening, first⟩ = some
      ⟨⟨separator, Opening.mediaType? separator opening.trim, opening.indent, location⟩, [], true⟩ := by
    rw [extend, opened]
    rfl
  have ended : (⟨closing, first + 1 + body.length⟩ : Line).startsWith separator = true :=
    List.isPrefixOf_iff_prefix.mpr closes
  refine ⟨⟨⟨separator, Opening.mediaType? separator opening.trim, opening.indent, location⟩,
    (body.map (keptLine separator opening.indent)).reverse, false⟩, ?_, rfl, rfl, rfl, ?_⟩
  · rw [ofLines, List.cons_append, Line.numberFrom, List.foldl_cons, begun, Line.numberFrom_append,
      List.foldl_append, foldl_within separators within, List.append_nil, Opening.bodyLine_eq_keptLine]
    simp only [Line.numberFrom, List.foldl_cons, List.foldl_nil, extend, add, ended, Bool.not_true,
      Bool.false_eq_true, if_false, if_true]
  · rw [finish, List.reverse_reverse]

end Draft

/-- A block that is indented further by whitespace is read as a doc-string of the same separator
and media type.  The content has the same lines, but the blank ones among them have the
whitespace in front.  In either block a body line that is not blank loses as much of its own
indentation as the opening line has. -/
theorem content_reindented (opens : separators.matching? opening.trim = some separator)
    (within : ∀ text ∈ body, ¬ separator <+: text.trim) (closes : separator <+: closing.trim)
    (white : margin.isBlank = true) (first : Nat) :
    ∃ plain shifted,
      Draft.ofLines separators (Line.numberFrom first (opening :: body ++ [closing])) = some plain ∧
      Draft.ofLines separators
        (Line.numberFrom first ((opening :: body ++ [closing]).map (margin ++ ·))) = some shifted ∧
      plain.isOpen = false ∧ shifted.isOpen = false ∧
      plain.finish.separator = separator ∧ shifted.finish.separator = separator ∧
      shifted.finish.mediaType = plain.finish.mediaType ∧
      ∃ kept,
        plain.finish.content = joinLines kept ∧
        shifted.finish.content = joinLines (kept.map (reindented margin)) ∧
        kept = innerLines (body.map (keptLine separator opening.indent)) ∧
        kept.map (reindented margin) =
          innerLines ((body.map (margin ++ ·)).map (keptLine separator (margin ++ opening).indent)) := by
  rcases startsSolid_of_matching? opens with ⟨solid, present⟩
  have opensShifted : separators.matching? (Text.trim (margin ++ opening)) = some separator := by
    rwa [Text.trim_append_left white]
  have closesShifted : separator <+: Text.trim (margin ++ closing) := by
    rwa [Text.trim_append_left white]
  have withinShifted : ∀ text ∈ body.map (margin ++ ·), ¬ separator <+: text.trim := by
    rw [List.forall_mem_map]
    intro text listed
    rw [Text.trim_append_left white]
    exact within text listed
  rcases Draft.exists_ofLines_block opens within closes first with
    ⟨plain, read, closed, same, media, content⟩
  rcases Draft.exists_ofLines_block opensShifted withinShifted closesShifted first with
    ⟨shifted, readShifted, closedShifted, sameShifted, mediaShifted, contentShifted⟩
  have lines : (innerLines (body.map (keptLine separator opening.indent))).map (reindented margin) =
      innerLines ((body.map (margin ++ ·)).map (keptLine separator (margin ++ opening).indent)) := by
    rw [← Text.innerLines_map (isBlank_reindented white), List.map_map, List.map_map]
    refine congrArg innerLines (List.map_congr_left fun text _ => ?_)
    exact (keptLine_margin_append solid present white opening text).symm
  refine ⟨plain, shifted, read, ?_, closed, closedShifted, same, sameShifted, ?_,
    _, content, ?_, rfl, lines⟩
  · rwa [List.map_append, List.map_cons, List.map_singleton]
  · rw [mediaShifted, media, Text.trim_append_left white]
  · rw [contentShifted, lines]

/-- A block with a tab and a wide space as indentation, a line that is indented less than the
opening line, a blank line and an escaped separator. -/
theorem tabbed_block_reindented : ∃ plain shifted : Draft,
    Draft.ofLines .standard (Line.numberFrom 1
      ["\t \"\"\"md".toList, "".toList, "\u3000\t  a".toList, " ".toList, "\tb \\\"\\\"\\\"".toList,
        "\"\"\"".toList]) = some plain ∧
    Draft.ofLines .standard (Line.numberFrom 1
      ["  \t \"\"\"md".toList, "  ".toList, "  \u3000\t  a".toList, "   ".toList,
        "  \tb \\\"\\\"\\\"".toList, "  \"\"\"".toList]) = some shifted ∧
    plain.finish.content = "  a\n \nb \"\"\"".toList ∧
    shifted.finish.content = "  a\n   \nb \"\"\"".toList ∧
    shifted.finish.mediaType = plain.finish.mediaType := by
  have opens : Separators.standard.matching? (Text.trim "\t \"\"\"md".toList) = some "\"\"\"".toList := by
    decide
  have within : ∀ text ∈ ["".toList, "\u3000\t  a".toList, " ".toList, "\tb \\\"\\\"\\\"".toList],
      ¬ "\"\"\"".toList <+: Text.trim text := by
    decide
  have closes : "\"\"\"".toList <+: Text.trim "\"\"\"".toList := by
    decide
  have white : Text.isBlank "  ".toList = true := by
    decide
  rcases content_reindented opens within closes white 1 with
    ⟨plain, shifted, read, readShifted, -, -, -, -, media, kept, content, contentShifted, rfl, -⟩
  exact ⟨plain, shifted, read, readShifted, content.trans (by decide),
    contentShifted.trans (by decide), media⟩

end DocString
end Gherkin
