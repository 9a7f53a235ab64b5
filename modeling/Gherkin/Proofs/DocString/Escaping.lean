import Gherkin.DocString.Basic
import Gherkin.Proofs.Text.Substitution
import Mathlib.Data.List.Infix

namespace Gherkin
namespace DocString

open Text (Replaces)

/-!
# Escaped separators

Escaping and then unescaping a line does not give every line back: a line that
already has an escaped separator loses it.  The lines that come out of
unescaping are stable, however.  Where such a line has an escaped separator, the
last character of it starts a separator that was put in, and that separator is
escaped again as a whole.

This holds of every separator that repeats one character, the mark.  An escaped
separator in such a line is followed from left to right, a backslash and a mark at a
time.  Unescaping puts in no backslash, and behind the first mark of a separator that
was put in stands another mark, not a backslash, so that separator can only start at
the last mark.

Both standard separators are one character three times, and this is all that is
used of them.
-/

/-! ## Escaped separators within a line -/

/-- Where the line has an escaped separator, the rest of a separator follows it. -/
def Escapable (separator line : Text) : Prop :=
  ∀ rest ∈ line.tails, escapedSeparator separator <+: rest →
    escapedSeparator separator ++ separator.tail <+: rest

instance escapableDecidable (separator line : Text) : Decidable (Escapable separator line) :=
  inferInstanceAs (Decidable (∀ rest ∈ line.tails, _))

theorem escapable_cons {separator : Text} {first : Char} {rest : Text} :
    Escapable separator (first :: rest) ↔
      (escapedSeparator separator <+: first :: rest →
        escapedSeparator separator ++ separator.tail <+: first :: rest) ∧
      Escapable separator rest := by
  simp only [Escapable, List.tails_cons, List.forall_mem_cons]

theorem Escapable.of_append {separator before text : Text}
    (escapable : Escapable separator (before ++ text)) : Escapable separator text :=
  fun rest listed => escapable rest
    ((List.mem_tails _ _).mpr (((List.mem_tails _ _).mp listed).trans (List.suffix_append _ _)))

/-! ## Separators of equal characters -/

variable {mark : Char} {count : Nat} {text result : Text}

theorem escapedSeparator_replicate_succ (mark : Char) (count : Nat) :
    escapedSeparator (List.replicate (count + 1) mark) =
      '\\' :: mark :: escapedSeparator (List.replicate count mark) :=
  rfl

/-- A character that was not put in was kept. -/
private theorem kept_of_ne {old new : Text} {put first : Char} (other : first ≠ put)
    (replaced : Replaces old (put :: new) text (first :: result)) :
    ∃ rest, text = first :: rest ∧ ¬ old <+: text ∧ Replaces old (put :: new) rest result := by
  generalize same : first :: result = whole at replaced
  cases replaced with
  | nil => cases same
  | found later => exact absurd (List.cons.inj same).1 other
  | kept absent later =>
      cases same
      exact ⟨_, rfl, absent, later⟩

/-- No escaped separator starts within marks alone. -/
theorem escapable_replicate_append (unlike : mark ≠ '\\')
    (escapable : Escapable (List.replicate (count + 1) mark) text) (size : Nat) :
    Escapable (List.replicate (count + 1) mark) (List.replicate size mark ++ text) := by
  induction size with
  | zero => exact escapable
  | succ size inductionHypothesis =>
      refine escapable_cons.mpr ⟨?_, inductionHypothesis⟩
      rintro ⟨after, same⟩
      exact absurd (List.cons.inj same).1.symm unlike

/-- Marks and backslashes by turns that come out of unescaping were there before, or the last
mark starts a separator that was put in. -/
private theorem marked_of_unescaped (unlike : mark ≠ '\\') {size : Nat} {after : Text}
    (replaced : Replaces (escapedSeparator (List.replicate (count + 1) mark))
      (List.replicate (count + 1) mark) text
      (mark :: (escapedSeparator (List.replicate size mark) ++ after))) :
    (∃ behind, text = mark :: (escapedSeparator (List.replicate size mark) ++ behind)) ∨
      List.replicate count mark <+: after := by
  induction size generalizing text with
  | zero =>
      generalize same : mark :: (escapedSeparator (List.replicate 0 mark) ++ after) = whole at replaced
      cases replaced with
      | nil => cases same
      | found later => exact .inr ⟨_, (List.cons.inj same).2.symm⟩
      | kept absent later =>
          cases same
          exact .inl ⟨_, rfl⟩
  | succ size inductionHypothesis =>
      rw [escapedSeparator_replicate_succ mark size, List.cons_append, List.cons_append] at replaced
      generalize same : mark :: '\\' :: mark :: (escapedSeparator (List.replicate size mark) ++ after) =
        whole at replaced
      cases replaced with
      | nil => cases same
      | found later =>
          -- A backslash stands behind the first mark that was put in, so it is the only one.
          cases count with
          | zero => exact .inr List.nil_prefix
          | succ count => exact absurd (List.cons.inj (List.cons.inj same).2).1.symm unlike
      | kept absent later =>
          cases same
          rcases kept_of_ne unlike.symm later with ⟨third, rfl, -, fromThird⟩
          rcases inductionHypothesis fromThird with ⟨behind, rfl⟩ | remaining
          · exact .inl ⟨behind, rfl⟩
          · exact .inr remaining

/-- Unescaping leaves only escaped separators of which the last mark starts a separator. -/
theorem escapable_of_unescaped (unlike : mark ≠ '\\')
    (replaced : Replaces (escapedSeparator (List.replicate (count + 1) mark))
      (List.replicate (count + 1) mark) text result) :
    Escapable (List.replicate (count + 1) mark) result := by
  induction replaced with
  | nil =>
      intro rest listed starts
      rw [List.mem_singleton.mp listed, List.prefix_nil] at starts
      cases starts
  | found later inductionHypothesis =>
      exact escapable_replicate_append unlike inductionHypothesis (count + 1)
  | kept absent later inductionHypothesis =>
      refine escapable_cons.mpr ⟨?_, inductionHypothesis⟩
      rintro ⟨after, same⟩
      rw [escapedSeparator_replicate_succ, List.cons_append, List.cons_append] at same
      rcases List.cons.inj same with ⟨rfl, rfl⟩
      rcases marked_of_unescaped unlike later with ⟨behind, rfl⟩ | ⟨remaining, rfl⟩
      · exact absurd ⟨behind, rfl⟩ absent
      · exact ⟨remaining, by simp [escapedSeparator_replicate_succ]⟩

/-- A backslash behind a mark at which no separator starts was there before escaping. -/
private theorem kept_of_backslash
    (free : ¬ List.replicate (count + 1) mark <+: mark :: text)
    (replaced : Replaces (List.replicate (count + 1) mark)
      (escapedSeparator (List.replicate (count + 1) mark)) text ('\\' :: result)) :
    ∃ rest, text = '\\' :: rest ∧
      Replaces (List.replicate (count + 1) mark)
        (escapedSeparator (List.replicate (count + 1) mark)) rest result := by
  generalize same : '\\' :: result = whole at replaced
  cases replaced with
  | nil => cases same
  | @found rest _ later =>
      refine absurd ⟨mark :: rest, ?_⟩ free
      rw [List.append_cons, ← List.replicate_succ', List.replicate_succ, List.cons_append]
  | kept absent later =>
      cases same
      exact ⟨_, rfl, later⟩

/-- Marks and backslashes by turns that come out of escaping were there before, and no separator
starts at the last mark. -/
private theorem marked_of_escaped (unlike : mark ≠ '\\') {size : Nat} {after : Text}
    (replaced : Replaces (List.replicate (count + 1) mark)
      (escapedSeparator (List.replicate (count + 1) mark)) text
      (mark :: (escapedSeparator (List.replicate size mark) ++ after))) :
    ∃ behind, text = mark :: (escapedSeparator (List.replicate size mark) ++ behind) ∧
      ¬ List.replicate (count + 1) mark <+: mark :: behind := by
  induction size generalizing text with
  | zero =>
      rcases kept_of_ne unlike replaced with ⟨behind, rfl, free, -⟩
      exact ⟨behind, rfl, free⟩
  | succ size inductionHypothesis =>
      rcases kept_of_ne unlike replaced with ⟨second, rfl, free, fromSecond⟩
      rcases kept_of_backslash free fromSecond with ⟨third, rfl, fromThird⟩
      rcases inductionHypothesis fromThird with ⟨behind, rfl, last⟩
      exact ⟨behind, rfl, last⟩

/-- Escaping such a line is undone by unescaping it. -/
theorem unescaped_of_escaped (unlike : mark ≠ '\\')
    (escapable : Escapable (List.replicate (count + 1) mark) text)
    (replaced : Replaces (List.replicate (count + 1) mark)
      (escapedSeparator (List.replicate (count + 1) mark)) text result) :
    Replaces (escapedSeparator (List.replicate (count + 1) mark))
      (List.replicate (count + 1) mark) result text := by
  induction replaced with
  | nil => exact .nil
  | found later inductionHypothesis => exact .found (inductionHypothesis escapable.of_append)
  | kept absent later inductionHypothesis =>
      rcases escapable_cons.mp escapable with ⟨here, behind⟩
      refine .kept ?_ (inductionHypothesis behind)
      rintro ⟨remaining, same⟩
      rw [escapedSeparator_replicate_succ, List.cons_append, List.cons_append] at same
      rcases List.cons.inj same with ⟨rfl, rfl⟩
      rcases marked_of_escaped unlike later with ⟨after, rfl, free⟩
      have followed : List.replicate count mark <+: after :=
        (List.prefix_append_right_inj (escapedSeparator (List.replicate (count + 1) mark))).mp
          (here ⟨after, rfl⟩)
      exact free ((List.prefix_cons_inj mark).mpr followed)

/-- Marks at the start of an escaped line were there before. -/
private theorem prefix_of_escaped (unlike : mark ≠ '\\') {size : Nat}
    (replaced : Replaces (List.replicate (count + 1) mark)
      (escapedSeparator (List.replicate (count + 1) mark)) text result)
    (starts : List.replicate size mark <+: result) : List.replicate size mark <+: text := by
  induction size generalizing text result with
  | zero => exact List.nil_prefix
  | succ size inductionHypothesis =>
      rcases starts with ⟨remaining, rfl⟩
      rcases kept_of_ne unlike replaced with ⟨rest, rfl, -, later⟩
      exact (List.prefix_cons_inj mark).mpr (inductionHypothesis later (List.prefix_append _ _))

/-- An escaped line does not start with the separator. -/
theorem not_prefix_of_escaped (unlike : mark ≠ '\\')
    (replaced : Replaces (List.replicate (count + 1) mark)
      (escapedSeparator (List.replicate (count + 1) mark)) text result) :
    ¬ List.replicate (count + 1) mark <+: result := by
  intro starts
  have before := prefix_of_escaped unlike replaced starts
  rcases starts with ⟨remaining, rfl⟩
  rcases kept_of_ne unlike replaced with ⟨rest, -, free, -⟩
  exact free before

/-! ## Lines of a doc-string -/

/-- A separator of one or more equal characters that are solid and no backslash. -/
structure Uniform (separator : Text) (mark : Char) : Prop where
  present : separator ≠ []
  equal : ∀ character ∈ separator, character = mark
  unlike : mark ≠ '\\'
  solid : Text.isSpace mark = false

namespace Uniform

variable {separator : Text}

theorem exists_count (uniform : Uniform separator mark) :
    ∃ count, separator = List.replicate (count + 1) mark := by
  have positive := List.length_pos_iff.mpr uniform.present
  refine ⟨separator.length - 1, ?_⟩
  rw [Nat.sub_add_cancel positive]
  exact List.eq_replicate_of_mem uniform.equal

theorem escapedSeparator_ne_nil (uniform : Uniform separator mark) : escapedSeparator separator ≠ [] := by
  rcases uniform.exists_count with ⟨count, rfl⟩
  exact List.cons_ne_nil _ _

theorem escape_replaces (uniform : Uniform separator mark) (text : Text) :
    Replaces separator (escapedSeparator separator) text (escape separator text) :=
  Text.replaces_replaceAll uniform.present _ text

theorem unescape_replaces (uniform : Uniform separator mark) (text : Text) :
    Replaces (escapedSeparator separator) separator text (unescape separator text) :=
  Text.replaces_replaceAll uniform.escapedSeparator_ne_nil _ text

/-- Whitespace alone has no escaped separator. -/
theorem escapable_of_isBlank (uniform : Uniform separator mark) (white : text.isBlank = true) :
    Escapable separator text := by
  rcases uniform.exists_count with ⟨count, rfl⟩
  rintro _ listed ⟨after, rfl⟩
  rcases (List.mem_tails _ _).mp listed with ⟨before, rfl⟩
  have solid : Text.isSpace '\\' = false := by decide
  simp [escapedSeparator_replicate_succ, Text.isBlank, solid] at white

/-- What unescaping leaves can be escaped. -/
theorem escapable_unescape (uniform : Uniform separator mark) (text : Text) :
    Escapable separator (unescape separator text) := by
  have replaced := uniform.unescape_replaces text
  rcases uniform.exists_count with ⟨count, rfl⟩
  exact escapable_of_unescaped uniform.unlike replaced

/-- A line comes back when it is escaped and unescaped exactly if the last mark of every escaped
separator in it starts a separator. -/
theorem unescape_escape_iff (uniform : Uniform separator mark) :
    unescape separator (escape separator text) = text ↔ Escapable separator text := by
  constructor
  · intro same
    rw [← same]
    exact uniform.escapable_unescape _
  · intro escapable
    have replaced := uniform.escape_replaces text
    have nonempty := uniform.escapedSeparator_ne_nil
    rcases uniform.exists_count with ⟨count, rfl⟩
    exact ((unescaped_of_escaped uniform.unlike escapable replaced).eq_replaceAll nonempty).symm

/-- A line that was unescaped once comes back when it is escaped and unescaped. -/
theorem unescape_escape (uniform : Uniform separator mark) (text : Text) :
    unescape separator (escape separator (unescape separator text)) = unescape separator text :=
  uniform.unescape_escape_iff.mpr (uniform.escapable_unescape text)

/-- Behind the whitespace at its start, an escaped line does not start with the separator. -/
theorem not_prefix_trimStart_escape (uniform : Uniform separator mark) (text : Text) :
    ¬ separator <+: Text.trimStart (escape separator text) := by
  have replaced := (uniform.escape_replaces text).trimStart uniform.present uniform.escapedSeparator_ne_nil
  rcases uniform.exists_count with ⟨count, rfl⟩
  exact not_prefix_of_escaped uniform.unlike
    (replaced (Text.startsSolid_cons.mpr uniform.solid) (Text.startsSolid_cons.mpr (by decide)))

end Uniform

/-- A line that was unescaped comes back when it is escaped and unescaped again, and its escaped
form is not taken for the separator, whatever whitespace stands in front of it. -/
theorem unescaped_line_stable {separator : Text} {mark : Char} (uniform : Uniform separator mark)
    (text : Text) :
    unescape separator (escape separator (unescape separator text)) = unescape separator text ∧
    ¬ separator <+: Text.trimStart (escape separator (unescape separator text)) :=
  ⟨uniform.unescape_escape text, uniform.not_prefix_trimStart_escape _⟩

/-- Two marks behind backslashes and a separator that was put in make an escaped separator. -/
theorem unescaped_seam_stable :
    Uniform "\"\"\"".toList '"' ∧
    unescape "\"\"\"".toList "\\\"\\\"\\\\\"\\\"\\\"".toList = "\\\"\\\"\\\"\"\"".toList ∧
    unescape "\"\"\"".toList (escape "\"\"\"".toList "\\\"\\\"\\\"\"\"".toList) =
      "\\\"\\\"\\\"\"\"".toList ∧
    ¬ "\"\"\"".toList <+: Text.trimStart (escape "\"\"\"".toList "\\\"\\\"\\\"\"\"".toList) := by
  have uniform : Uniform "\"\"\"".toList '"' := ⟨by decide, by simp, by decide, by decide⟩
  have unescaped : unescape "\"\"\"".toList "\\\"\\\"\\\\\"\\\"\\\"".toList =
      "\\\"\\\"\\\"\"\"".toList := by decide
  have stable := unescaped_line_stable uniform "\\\"\\\"\\\\\"\\\"\\\"".toList
  rw [unescaped] at stable
  exact ⟨uniform, unescaped, stable.1, stable.2⟩

/-! ## The standard separators -/

/-- A separator of three equal characters that are solid and no backslash. -/
structure Triple (separator : Text) (mark : Char) : Prop where
  eq : separator = [mark, mark, mark]
  unlike : mark ≠ '\\'
  solid : Text.isSpace mark = false

theorem exists_triple_of_mem {separator : Text}
    (listed : separator ∈ [Separators.standard.primary, Separators.standard.alternative]) :
    ∃ mark, Triple separator mark := by
  rcases List.mem_cons.mp listed with rfl | listed
  · exact ⟨'"', rfl, by decide, by decide⟩
  · rw [List.mem_singleton.mp listed]
    exact ⟨'`', rfl, by decide, by decide⟩

theorem exists_triple_of_standard {separator trimmed : Text}
    (found : Separators.standard.matching? trimmed = some separator) : ∃ mark, Triple separator mark :=
  exists_triple_of_mem (List.mem_of_find?_eq_some found)

namespace Triple

variable {separator : Text}

theorem ne_nil (triple : Triple separator mark) : separator ≠ [] := by
  rw [triple.eq]
  exact List.cons_ne_nil _ _

theorem escaped_eq (triple : Triple separator mark) :
    escapedSeparator separator = ['\\', mark, '\\', mark, '\\', mark] := by
  rw [triple.eq]
  rfl

theorem uniform (triple : Triple separator mark) : Uniform separator mark where
  present := triple.ne_nil
  equal := by simp [triple.eq]
  unlike := triple.unlike
  solid := triple.solid

theorem escape_replaces (triple : Triple separator mark) (text : Text) :
    Replaces [mark, mark, mark] ['\\', mark, '\\', mark, '\\', mark] text (escape separator text) := by
  have replaced := triple.uniform.escape_replaces text
  cases triple.eq
  exact replaced

theorem unescape_replaces (triple : Triple separator mark) (text : Text) :
    Replaces ['\\', mark, '\\', mark, '\\', mark] [mark, mark, mark] text (unescape separator text) := by
  have replaced := triple.uniform.unescape_replaces text
  cases triple.eq
  exact replaced

theorem isBlank_escape (triple : Triple separator mark) (text : Text) :
    (escape separator text).isBlank = text.isBlank :=
  (triple.escape_replaces text).isBlank_eq (by simp [Text.isBlank, triple.solid])
    (by simp [Text.isBlank, triple.solid])

theorem ne_newline (triple : Triple separator mark) : mark ≠ '\n' := by
  intro same
  have solid := triple.solid
  rw [same] at solid
  exact absurd solid (by decide)

theorem singleLine (triple : Triple separator mark) : Text.SingleLine separator := by
  rw [triple.eq]
  simp [Text.SingleLine, triple.ne_newline.symm]

theorem singleLine_escape (triple : Triple separator mark) {text : Text}
    (single : Text.SingleLine text) : Text.SingleLine (escape separator text) :=
  (triple.escape_replaces text).singleLine (by simp [Text.SingleLine, triple.ne_newline.symm]) single

theorem singleLine_unescape (triple : Triple separator mark) {text : Text}
    (single : Text.SingleLine text) : Text.SingleLine (unescape separator text) :=
  (triple.unescape_replaces text).singleLine (by simp [Text.SingleLine, triple.ne_newline.symm]) single

/-- A written line of the body does not close the doc-string, whatever its margin. -/
theorem not_isPrefixOf_escape (triple : Triple separator mark) {margin : Text}
    (white : margin.isBlank = true) (text : Text) :
    separator.isPrefixOf (Text.trim (margin ++ escape separator text)) = false := by
  rw [Text.trim_append_left white, Bool.eq_false_iff, ne_eq, List.isPrefixOf_iff_prefix]
  intro starts
  rcases Text.exists_trimEnd (Text.trimStart (escape separator text)) with ⟨after, -, same⟩
  refine triple.uniform.not_prefix_trimStart_escape text ?_
  rw [same]
  exact starts.trans (List.prefix_append _ _)

end Triple

end DocString
end Gherkin
