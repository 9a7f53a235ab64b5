import Gherkin.Dialect
import Gherkin.Proofs.Text.Trimming
import Mathlib.Tactic.Common

namespace Gherkin

/-!
# Facts about classification

A blank line is plain and starts with no separator.  Any other classification is
a candidate of the language that opens the line.  A role that no language has
words for comes from a mark alone, so a table row starts with a bar and opens no
doc-string.
-/

namespace Classification

variable {language : Language} {text : Text} {candidate : Classification}

theorem ofText_eq_plain_or_mem (language : Language) (text : Text) :
    ofText language text = plain ∨
      (ofText language text ∈ candidates language ∧
        (ofText language text).opens text.trim = true) := by
  unfold ofText
  split
  · exact .inl rfl
  · cases found : (candidates language).find? fun candidate => candidate.opens text.trim with
    | none => exact .inl rfl
    | some candidate =>
        have opens := List.find?_some found
        exact .inr ⟨List.mem_of_find?_eq_some found, opens⟩

/-- The classification of a line does not depend on the whitespace around its text. -/
theorem ofText_congr {other : Text} (same : text.trim = other.trim) :
    ofText language text = ofText language other := by
  have white : text.isBlank = other.isBlank := by
    rw [← Text.isBlank_trim, same, Text.isBlank_trim]
  rw [ofText, ofText, same, white]

/-- A line with a role starts with a candidate of the language. -/
theorem mem_candidates_of_role (solid : (ofText language text).role ≠ .plain) :
    ofText language text ∈ candidates language ∧ (ofText language text).opens text.trim = true :=
  (ofText_eq_plain_or_mem language text).resolve_left fun same => solid (by rw [same]; rfl)

/-- A role without words in the language belongs to one of the common candidates. -/
theorem mem_common_of_unspoken (listed : candidate ∈ candidates language)
    (unspoken : candidate.role ∉ spokenRoles) : candidate ∈ common := by
  rcases List.mem_append.mp listed with spoken | shared
  · rcases List.mem_flatMap.mp spoken with ⟨role, among, word⟩
    rcases List.mem_map.mp word with ⟨_, _, rfl⟩
    exact absurd among unspoken
  · exact shared

end Classification

namespace Separators

theorem matching?_nil (separators : Separators) : separators.matching? [] = none := by
  have refused : ∀ separator : Text, (!separator.isEmpty && separator.isPrefixOf []) = false := by
    intro separator
    cases separator <;> rfl
  simp [matching?, refused]

/-- A separator that is found is not empty, and the text starts with it. -/
theorem prefix_of_matching? {separators : Separators} {trimmed separator : Text}
    (found : separators.matching? trimmed = some separator) :
    separator ≠ [] ∧ separator <+: trimmed := by
  have matching := List.find?_some found
  simpa using matching

end Separators

namespace Line

theorem trimmed_of_isBlank {line : Line} (blank : line.isBlank = true) : line.trimmed = [] :=
  Text.trim_eq_nil_iff.mpr blank

end Line

namespace Dialect

variable {dialect : Dialect} {line : Line}

theorem role_of_isBlank (dialect : Dialect) (blank : line.isBlank = true) :
    dialect.role line = .plain := by
  have text : line.text.isBlank = true := blank
  simp [role, Line.classify, Classification.ofText, text, Classification.plain]

theorem isBlank_of_role (solid : dialect.role line ≠ .plain) : line.isBlank = false :=
  Bool.eq_false_iff.mpr fun white => solid (role_of_isBlank dialect white)

theorem isSeparator_of_isBlank (blank : line.isBlank = true) : dialect.isSeparator line = false := by
  simp [isSeparator, Line.trimmed_of_isBlank blank, Separators.matching?_nil]

/-- A line that starts no step and is no row, comment, tag or heading is plain. -/
theorem plain_of_routed (silent : (dialect.role line).isStep = false)
    (unbarred : dialect.role line ≠ .tableRow)
    (routed : dialect.role line ≠ .comment ∧ dialect.role line ≠ .tag ∧
      (dialect.role line).takesColon = false) : dialect.role line = .plain := by
  cases role : dialect.role line <;> simp_all [Role.isStep, Role.takesColon]

/-- A line that no doc-string takes and that opens nothing goes to the construct that reads on. -/
def Routed (dialect : Dialect) (line : Line) : Prop :=
  dialect.role line ≠ .comment ∧ dialect.role line ≠ .tag ∧ (dialect.role line).takesColon = false

theorem routed_of_plain (role : dialect.role line = .plain) : dialect.Routed line := by
  rw [Routed, role]
  decide

/-- A line that is offered to a construct and belongs to no argument is plain. -/
theorem Routed.plain (routed : dialect.Routed line) (silent : (dialect.role line).isStep = false)
    (free : dialect.isArgument line = false) :
    dialect.role line = .plain ∧ dialect.isSeparator line = false := by
  simp only [isArgument, Bool.or_eq_false_iff, decide_eq_false_iff_not] at free
  exact ⟨plain_of_routed silent free.1 routed, free.2⟩

/-- A table row starts with a bar. -/
theorem bar_isPrefixOf_of_role (role : dialect.role line = .tableRow) :
    ['|'].isPrefixOf line.trimmed = true := by
  have own : (line.classify dialect.language).role = .tableRow := role
  have solid : (Classification.ofText dialect.language line.text).role ≠ .plain := by
    rw [← Line.classify, own]
    decide
  rcases Classification.mem_candidates_of_role solid with ⟨listed, opens⟩
  rw [← Line.classify] at listed opens
  have shared := Classification.mem_common_of_unspoken listed (by rw [own]; decide)
  generalize line.classify dialect.language = candidate at own opens shared
  simp only [Classification.common, List.mem_cons, List.not_mem_nil, or_false] at shared
  have bar : candidate = ⟨.tableRow, "|".toList⟩ := by
    rcases shared with rfl | rfl | rfl | rfl | rfl | rfl | rfl | rfl <;> first | rfl | cases own
  subst bar
  simpa [Classification.opens, Role.takesColon, Role.isStep, Line.trimmed] using opens

/-- None of the standard separators starts with a bar. -/
theorem isSeparator_of_role (standard : dialect.separators = .standard)
    (role : dialect.role line = .tableRow) : dialect.isSeparator line = false := by
  rcases List.isPrefixOf_iff_prefix.mp (bar_isPrefixOf_of_role role) with ⟨rest, same⟩
  rw [isSeparator, standard, ← same]
  simp [Separators.matching?, Separators.standard]

end Dialect

end Gherkin
