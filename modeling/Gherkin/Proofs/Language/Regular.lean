import Gherkin.Parse
import Gherkin.Proofs.Classification
import Mathlib.Data.List.Infix

namespace Gherkin

open Text (StartsSolid)

/-!
# Regular languages

Whether a written line is classified as the line from which it came depends on
the words of the language: another word might fit the written line and not the
original one.  A regular language leaves no room for that, with one exception.
Step words may extend each other, and then a text behind the shorter word can
complete the longer one.  The longer one stands first in the language.

All languages that come with the library are regular.
-/

namespace Classification

variable {candidate : Classification} {trimmed core rest : Text}

/-- What a line that is opened by a keyword starts with, unless the keyword is that of a
step and stands alone. -/
def opening (candidate : Classification) : Text :=
  if candidate.role.takesColon then candidate.keyword ++ [':'] else candidate.keyword

theorem opening_of_takesColon (colon : candidate.role.takesColon = true) :
    candidate.opening = candidate.keyword ++ [':'] :=
  if_pos colon

theorem opening_of_isStep (step : candidate.role.isStep = true) :
    candidate.opening = candidate.keyword := by
  apply if_neg
  cases role : candidate.role <;> simp_all [Role.isStep, Role.takesColon]

/-- A keyword that stands alone on its line has lost its separator. -/
def Bare (candidate : Classification) (trimmed : Text) : Prop :=
  candidate.role.isStep = true ∧ candidate.keyword.trimEnd ≠ candidate.keyword ∧
    trimmed = candidate.keyword.trimEnd

theorem opens_iff :
    candidate.opens trimmed = true ↔
      candidate.keyword ≠ [] ∧ (candidate.opening <+: trimmed ∨ candidate.Bare trimmed) := by
  unfold opens opening Bare
  cases present : candidate.keyword with
  | nil => simp
  | cons first others =>
      rw [← present, ← Text.length_trimEnd_lt_iff]
      cases role : candidate.role <;>
        simp [present, Role.takesColon, Role.isStep, List.isPrefixOf_iff_prefix]

/-- The keyword that opens a line starts with the same character. -/
theorem head?_of_opens (solid : StartsSolid candidate.keyword) (opens : candidate.opens trimmed = true) :
    trimmed.head? = candidate.keyword.head? ∧ candidate.keyword ≠ [] := by
  rcases opens_iff.mp opens with ⟨present, starts | ⟨-, -, rfl⟩⟩
  · refine ⟨?_, present⟩
    rcases starts with ⟨rest, rfl⟩
    rcases List.exists_cons_of_ne_nil present with ⟨first, others, same⟩
    unfold opening
    split_ifs <;> simp [same]
  · refine ⟨?_, present⟩
    rcases List.exists_cons_of_ne_nil present with ⟨first, others, same⟩
    rcases Text.exists_trimEnd candidate.keyword with ⟨after, blank, whole⟩
    cases kept : candidate.keyword.trimEnd with
    | nil =>
        have white := Text.trimEnd_eq_nil_iff.mp kept
        rw [same] at white solid
        simp [Text.isBlank, Text.startsSolid_cons.mp solid] at white
    | cons other remaining =>
        rw [kept] at whole
        rw [whole]
        rfl

/-! ## Lines that start alike -/

/-- Two searches that accept each other's result have the same result. -/
private theorem eq_of_find? {accepts admits : Classification → Bool} {listed : List Classification}
    {first second : Classification} (found : listed.find? accepts = some first)
    (other : listed.find? admits = some second) (admitted : admits first = true)
    (accepted : accepts second = true) : first = second := by
  induction listed with
  | nil => cases found
  | cons head rest inductionHypothesis =>
      rw [List.find?_cons] at found other
      cases own : accepts head with
      | true =>
          rw [own] at found
          cases found
          rw [admitted] at other
          exact Option.some.inj other
      | false =>
          rw [own] at found
          cases foreign : admits head with
          | true =>
              rw [foreign] at other
              cases other
              rw [own] at accepted
              cases accepted
          | false =>
              rw [foreign] at other
              exact inductionHypothesis found other

variable {language : Language} {text printed : Text}

/-- A line that some candidate opens is classified by a search through the candidates. -/
theorem find?_of_opens {candidate : Classification} (listed : candidate ∈ candidates language)
    (visible : text.isBlank = false) (opened : candidate.opens text.trim = true) :
    ((candidates language).find? fun candidate => candidate.opens text.trim) =
      some (ofText language text) := by
  cases found : (candidates language).find? fun candidate => candidate.opens text.trim with
  | none => exact absurd opened (List.find?_eq_none.mp found candidate listed)
  | some first =>
      rw [ofText, visible, found]
      rfl

theorem isBlank_of_role (solid : (ofText language text).role ≠ .plain) : text.isBlank = false := by
  cases white : text.isBlank with
  | false => rfl
  | true => exact absurd (by rw [ofText, if_pos white]; rfl) solid

theorem isBlank_of_head? {first : Char} (starts : text.trim.head? = some first) :
    text.isBlank = false := by
  rw [← Text.isBlank_trim]
  cases white : text.trim.isBlank with
  | false => rfl
  | true =>
      rw [Text.eq_nil_of_isBlank white (Text.trimmed_trim text)] at starts
      cases starts

/-- A text that starts like a line is classified like this line, or by a candidate that
extends what the line starts with. -/
theorem ofText_eq_or_extends (solid : (ofText language text).role ≠ .plain)
    (starts : (ofText language text).opening <+: text.trim)
    (again : (ofText language text).opening <+: printed.trim) :
    ofText language printed = ofText language text ∨
      (ofText language printed ∈ candidates language ∧
        (ofText language printed).opens printed.trim = true ∧
        (ofText language text).opening <+: (ofText language printed).opening ∧
        (ofText language printed).opening ≠ (ofText language text).opening) := by
  rcases mem_candidates_of_role solid with ⟨listed, opened⟩
  have first := find?_of_opens listed (isBlank_of_role solid) opened
  have present := (opens_iff.mp opened).1
  generalize ofText language text = candidate at *
  have reopened : candidate.opens printed.trim = true := opens_iff.mpr ⟨present, .inl again⟩
  have visible : printed.isBlank = false := by
    rcases again with ⟨rest, same⟩
    cases begun : printed.trim with
    | nil =>
        rw [begun, List.append_eq_nil_iff, opening] at same
        split_ifs at same <;> simp_all
    | cons head tail =>
        have start : printed.trim.head? = some head := by rw [begun, List.head?_cons]
        exact isBlank_of_head? start
  have second := find?_of_opens listed visible reopened
  have fits := List.find?_some second
  have admitted := List.mem_of_find?_eq_some second
  generalize ofText language printed = found at *
  by_cases within : found.opening <+: candidate.opening
  · have back : found.opens text.trim = true :=
      opens_iff.mpr ⟨(opens_iff.mp fits).1, .inl (within.trans starts)⟩
    exact .inl (eq_of_find? first second reopened back).symm
  · refine .inr ⟨admitted, fits, ?_, ?_⟩
    · rcases (opens_iff.mp fits).2 with begins | ⟨step, -, bare⟩
      · exact (List.prefix_or_prefix_of_prefix begins again).resolve_left within
      · rcases Text.exists_trimEnd found.keyword with ⟨after, -, whole⟩
        rw [opening_of_isStep step, whole, ← bare]
        exact again.trans (List.prefix_append _ _)
    · intro equal
      exact within (by rw [equal])

end Classification

/-! ## Regularity -/

/-- Which characters a word may start with.  Whitespace, the characters of the doc-string
separators and the byte-order mark start none; three marks stand for one role each. -/
def Classification.Marked (candidate : Classification) : Prop :=
  ∀ first ∈ candidate.keyword.head?, Text.isSpace first = false ∧
    first ∉ ['"', '`', byteOrderMark] ∧ (first = '@' → candidate.role = .tag) ∧
    (first = '|' → candidate.role = .tableRow) ∧ (first = '#' → candidate.role = .comment)

instance markedDecidable (candidate : Classification) : Decidable candidate.Marked :=
  Option.decidableForallMem candidate.keyword.head?

/-- A language in which no word is taken for another one, except that step words may
extend step words. -/
structure Language.Regular (language : Language) : Prop where
  marked : ∀ candidate ∈ Classification.candidates language, candidate.Marked
  colonless : ∀ candidate ∈ Classification.candidates language, ':' ∉ candidate.keyword
  extended : ∀ candidate ∈ Classification.candidates language, candidate.role.isStep = true →
    ∀ longer ∈ Classification.candidates language, candidate.keyword <+: longer.keyword →
      longer.role.isStep = true

instance regularDecidable (language : Language) : Decidable language.Regular :=
  decidable_of_iff
    ((∀ candidate ∈ Classification.candidates language, candidate.Marked) ∧
      (∀ candidate ∈ Classification.candidates language, ':' ∉ candidate.keyword) ∧
      ∀ candidate ∈ Classification.candidates language, candidate.role.isStep = true →
        ∀ longer ∈ Classification.candidates language, candidate.keyword <+: longer.keyword →
          longer.role.isStep = true)
    ⟨fun ⟨marked, colonless, extended⟩ => ⟨marked, colonless, extended⟩,
      fun ⟨marked, colonless, extended⟩ => ⟨marked, colonless, extended⟩⟩

theorem LanguageTable.regular_of_builtin :
    ∀ language ∈ LanguageTable.builtin.entries, language.Regular := by
  decide +kernel

namespace Language.Regular

open Classification

variable {language : Language} {text : Text}

theorem startsSolid (regular : language.Regular) {candidate : Classification}
    (listed : candidate ∈ candidates language) : StartsSolid candidate.keyword :=
  fun first found => (regular.marked candidate listed first found).1

/-- The classification of a line with a role starts with the character with which the line does. -/
theorem head?_of_role (regular : language.Regular) (solid : (ofText language text).role ≠ .plain) :
    (ofText language text).keyword.head? = text.trim.head? := by
  rcases mem_candidates_of_role solid with ⟨listed, opened⟩
  exact (head?_of_opens (regular.startsSolid listed) opened).1.symm

/-- A line that starts with a character of the separators is plain. -/
theorem plain_of_quote (regular : language.Regular) {first : Char}
    (starts : text.trim.head? = some first) (quote : first ∈ ['"', '`', byteOrderMark]) :
    (ofText language text).role = .plain := by
  by_contra solid
  have found := (regular.head?_of_role solid).trans starts
  rcases mem_candidates_of_role solid with ⟨listed, -⟩
  exact (regular.marked _ listed first found).2.1 quote

private theorem role_of_common (regular : language.Regular) {first : Char} {role : Role}
    (among : ⟨role, [first]⟩ ∈ common) (colonless : role.takesColon = false)
    (starts : text.trim.head? = some first) : (ofText language text).keyword.head? = some first ∧
      ofText language text ∈ candidates language := by
  have listed : (⟨role, [first]⟩ : Classification) ∈ candidates language :=
    List.mem_append_right _ among
  have opened : (⟨role, [first]⟩ : Classification).opens text.trim = true := by
    refine opens_iff.mpr ⟨List.cons_ne_nil _ _, .inl ?_⟩
    cases begun : text.trim with
    | nil =>
        rw [begun] at starts
        cases starts
    | cons head tail =>
        rw [begun] at starts
        cases starts
        rw [opening, colonless]
        exact ⟨tail, rfl⟩
  have found := find?_of_opens listed (isBlank_of_head? starts) opened
  have admitted := List.mem_of_find?_eq_some found
  have fits := List.find?_some found
  refine ⟨?_, admitted⟩
  rw [← starts]
  exact (head?_of_opens (regular.startsSolid admitted) fits).1.symm

/-- A line that starts with an at sign is a tag line. -/
theorem tag_of_at (regular : language.Regular) (starts : text.trim.head? = some '@') :
    (ofText language text).role = .tag := by
  have among : (⟨.tag, ['@']⟩ : Classification) ∈ common := by decide
  rcases regular.role_of_common among rfl starts with ⟨found, listed⟩
  exact (regular.marked _ listed '@' found).2.2.1 rfl

/-- A line that starts with a bar is a table row. -/
theorem tableRow_of_bar (regular : language.Regular) (starts : text.trim.head? = some '|') :
    (ofText language text).role = .tableRow := by
  have among : (⟨.tableRow, ['|']⟩ : Classification) ∈ common := by decide
  rcases regular.role_of_common among rfl starts with ⟨found, listed⟩
  exact (regular.marked _ listed '|' found).2.2.2.1 rfl

/-- A line that starts with a number sign is a comment. -/
theorem comment_of_hash (regular : language.Regular) (starts : text.trim.head? = some '#') :
    (ofText language text).role = .comment := by
  have among : (⟨.comment, ['#']⟩ : Classification) ∈ common := by decide
  rcases regular.role_of_common among rfl starts with ⟨found, listed⟩
  exact (regular.marked _ listed '#' found).2.2.2.2 rfl

/-- No keyword goes on behind the colon of a heading. -/
theorem ofText_eq_of_heading (regular : language.Regular) {printed : Text}
    (colon : (ofText language text).role.takesColon = true)
    (starts : (ofText language text).keyword ++ [':'] <+: text.trim)
    (again : (ofText language text).keyword ++ [':'] <+: printed.trim) :
    ofText language printed = ofText language text := by
  have solid : (ofText language text).role ≠ .plain := by
    intro plain
    rw [plain] at colon
    cases colon
  rw [← opening_of_takesColon colon] at starts again
  rcases ofText_eq_or_extends solid starts again with same | ⟨listed, -, longer, different⟩
  · exact same
  · exfalso
    apply regular.colonless _ listed
    rw [opening_of_takesColon colon] at longer different
    have within : (ofText language text).keyword ++ [':'] <+: (ofText language printed).keyword := by
      unfold opening at longer different
      split_ifs at longer different
      · exact (List.prefix_concat_iff.mp longer).resolve_left different.symm
      · exact longer
    exact within.subset (List.mem_append_right _ List.mem_cons_self)

/-- Only the keyword of a step goes on where that of a step ends. -/
theorem ofText_eq_or_isStep (regular : language.Regular) {printed : Text}
    (step : (ofText language text).role.isStep = true)
    (starts : (ofText language text).keyword <+: text.trim)
    (again : (ofText language text).keyword <+: printed.trim) :
    ofText language printed = ofText language text ∨
      (ofText language printed ∈ candidates language ∧
        (ofText language printed).opens printed.trim = true ∧
        (ofText language printed).role.isStep = true ∧
        (ofText language text).keyword <+: (ofText language printed).keyword ∧
        (ofText language printed).keyword ≠ (ofText language text).keyword) := by
  have solid : (ofText language text).role ≠ .plain := by
    intro plain
    rw [plain] at step
    cases step
  rcases mem_candidates_of_role solid with ⟨admitted, -⟩
  rw [← opening_of_isStep step] at starts again
  rcases ofText_eq_or_extends solid starts again with same | ⟨listed, opened, longer, different⟩
  · exact .inl same
  · rw [opening_of_isStep step] at longer different
    have within : (ofText language text).keyword <+: (ofText language printed).keyword := by
      unfold opening at longer different
      split_ifs at longer different
      · exact (List.prefix_concat_iff.mp longer).resolve_left different.symm
      · exact longer
    have same := regular.extended _ admitted step _ listed within
    rw [opening_of_isStep same] at different
    exact .inr ⟨listed, opened, same, within, different⟩

end Language.Regular

end Gherkin
