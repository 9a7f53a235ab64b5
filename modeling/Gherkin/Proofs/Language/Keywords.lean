import Gherkin.Language.Builtin
import Gherkin.Proofs.Language.Regular

namespace Gherkin

open Text (EndsSolid)

/-!
# The first keyword that fits

The words of the language are tried first, role by role, and then the marks and English words
that every language has.  The first of them that fits a line decides, whether or not a later
one would fit more of the line.  Languages are arbitrary here: their words may be empty, may
extend each other and may hold whitespace and colons.

The keyword of a heading fits only with a colon directly behind it.  A step keyword that ends
with whitespace also fits a line on which the rest of it stands alone.  Two kinds of words are
the exception: an empty one fits no line, and one of whitespace alone does not fit a blank
line, although nothing is left of it when the whitespace at its end is taken away.

Nothing of a line is lost.  It is the keyword, the colon of a heading, whitespace and what
stripping leaves of the line, in this order.
-/

theorem Role.takesColon_of_isStep {role : Role} (step : role.isStep = true) :
    role.takesColon = false := by
  cases role <;> first | rfl | cases step

namespace Classification

variable {candidate : Classification} {trimmed : Text}

/-! ## What is left of a line -/

/-- What is left of a line stands behind the keyword and the colon of a heading. -/
theorem strip_opening (candidate : Classification) (rest : Text) :
    candidate.strip (candidate.opening ++ rest) = Text.trim rest := by
  unfold strip opening
  cases colon : candidate.role.takesColon with
  | true =>
      have behind : candidate.keyword.isPrefixOf? (candidate.keyword ++ [':'] ++ rest) =
          some ([':'] ++ rest) :=
        List.isPrefixOf?_eq_some_iff_append_eq.mpr (List.append_assoc _ _ _).symm
      have inner : [':'].isPrefixOf? ([':'] ++ rest) = some rest :=
        List.isPrefixOf?_eq_some_iff_append_eq.mpr rfl
      simp only [if_true, behind, Option.some_or, Option.getD_some, inner]
  | false =>
      have behind : candidate.keyword.isPrefixOf? (candidate.keyword ++ rest) = some rest :=
        List.isPrefixOf?_eq_some_iff_append_eq.mpr rfl
      simp only [Bool.false_eq_true, if_false, behind, Option.some_or, Option.getD_some]

theorem strip_heading (colon : candidate.role.takesColon = true) (rest : Text) :
    candidate.strip (candidate.keyword ++ ':' :: rest) = Text.trim rest := by
  have stripped := strip_opening candidate rest
  rwa [opening_of_takesColon colon, List.append_assoc] at stripped

theorem strip_step (step : candidate.role.isStep = true) (rest : Text) :
    candidate.strip (candidate.keyword ++ rest) = Text.trim rest := by
  have stripped := strip_opening candidate rest
  rwa [opening_of_isStep step] at stripped

/-- Nothing is left behind a keyword that stands alone. -/
theorem strip_bare (bare : candidate.Bare trimmed) : candidate.strip trimmed = [] := by
  rcases bare with ⟨step, different, rfl⟩
  have longer : candidate.keyword.isPrefixOf? candidate.keyword.trimEnd = none := by
    rw [Option.eq_none_iff_forall_ne_some]
    intro rest found
    have same := List.isPrefixOf?_eq_some_iff_append_eq.mp found
    rcases Text.exists_trimEnd candidate.keyword with ⟨after, -, whole⟩
    have size := congrArg List.length same
    have other := congrArg List.length whole
    rw [List.length_append] at size other
    have nothing : after = [] := List.length_eq_zero_iff.mp (by omega)
    rw [nothing, List.append_nil] at whole
    exact different whole.symm
  have alone : candidate.keyword.trimEnd.isPrefixOf? candidate.keyword.trimEnd = some [] :=
    List.isPrefixOf?_eq_some_iff_append_eq.mpr (List.append_nil _)
  have colonless : candidate.role.takesColon = false := Role.takesColon_of_isStep step
  rw [strip, longer, alone]
  simp only [Option.none_or, Option.getD_some, colonless, Bool.false_eq_true, if_false]
  rfl

/-- What is left of the line of a step stands behind its keyword, unless that stands alone. -/
theorem strip_cases (step : candidate.role.isStep = true) (opens : candidate.opens trimmed = true) :
    (∃ rest, trimmed = candidate.keyword ++ rest ∧ candidate.strip trimmed = Text.trim rest) ∨
      (candidate.strip trimmed = [] ∧ trimmed = candidate.keyword.trimEnd) := by
  rcases (opens_iff.mp opens).2 with ⟨rest, same⟩ | bare
  · rw [opening_of_isStep step] at same
    exact .inl ⟨rest, same.symm, same ▸ strip_step step rest⟩
  · exact .inr ⟨strip_bare bare, bare.2.2⟩

/-- A line that ends solid is what its keyword opens it with, whitespace and what is left of it. -/
theorem exists_gap (solid : EndsSolid trimmed) (starts : candidate.opening <+: trimmed) :
    ∃ gap, gap.isBlank = true ∧
      trimmed = candidate.opening ++ gap ++ candidate.strip trimmed := by
  rcases starts with ⟨rest, rfl⟩
  rcases Text.exists_trimStart rest with ⟨gap, white, same⟩
  have ending : EndsSolid (Text.trimStart rest) :=
    Text.endsSolid_of_append (same ▸ Text.endsSolid_of_append solid)
  have left : Text.trim rest = Text.trimStart rest := Text.trimEnd_eq_self_iff.mpr ending
  refine ⟨gap, white, ?_⟩
  rw [strip_opening, left, List.append_assoc, ← same]

/-! ## Keywords that fit -/

/-- The trimmed line that a keyword fits. -/
inductive Fits (trimmed : Text) : Classification → Prop
  /-- The keyword of a heading fits with a colon directly behind it. -/
  | heading {role : Role} {word : Text} (colon : role.takesColon = true) (present : word ≠ [])
      (rest : Text) (starts : trimmed = word ++ ':' :: rest) : Fits trimmed ⟨role, word⟩
  /-- Any other keyword fits where the line starts with it. -/
  | start {role : Role} {word : Text} (colonless : role.takesColon = false) (present : word ≠ [])
      (rest : Text) (starts : trimmed = word ++ rest) : Fits trimmed ⟨role, word⟩
  /-- A step keyword that ends with whitespace also fits where the rest of it stands alone,
  unless nothing is left of it. -/
  | alone {role : Role} {word : Text} (step : role.isStep = true) (loose : word.trimEnd ≠ word)
      (solid : word.isBlank = false) (same : trimmed = word.trimEnd) : Fits trimmed ⟨role, word⟩

/-- No keyword fits a blank line. -/
theorem Fits.ne_nil (fits : Fits trimmed candidate) : trimmed ≠ [] := by
  cases fits with
  | heading colon present rest starts => simp [starts]
  | start colonless present rest starts => simp [starts, present]
  | alone step loose solid same =>
      rw [same, ne_eq, Text.trimEnd_eq_nil_iff, solid]
      exact Bool.false_ne_true

theorem fits_iff_opens (visible : trimmed ≠ []) :
    Fits trimmed candidate ↔ candidate.opens trimmed = true := by
  rw [opens_iff]
  constructor
  · intro fits
    cases fits with
    | heading colon present rest starts =>
        refine ⟨present, .inl ⟨rest, ?_⟩⟩
        rw [opening_of_takesColon colon, starts, List.append_assoc, List.singleton_append]
    | start colonless present rest starts =>
        refine ⟨present, .inl ⟨rest, ?_⟩⟩
        rw [opening, colonless, if_neg Bool.false_ne_true, starts]
    | @alone role word step loose solid same =>
        have present : word ≠ [] := by
          rintro rfl
          cases solid
        exact ⟨present, .inr ⟨step, loose, same⟩⟩
  · rcases candidate with ⟨role, word⟩
    rintro ⟨present, ⟨rest, starts⟩ | ⟨step, loose, same⟩⟩
    · cases colon : role.takesColon with
      | true =>
          rw [opening_of_takesColon colon, List.append_assoc, List.singleton_append] at starts
          exact .heading colon present rest starts.symm
      | false =>
          rw [opening, colon, if_neg Bool.false_ne_true] at starts
          exact .start colon present rest starts.symm
    · refine .alone step loose ?_ same
      rw [Bool.eq_false_iff, ne_eq, ← Text.trimEnd_eq_nil_iff, ← same]
      exact visible

/-! ## The order in which keywords are tried -/

/-- All keywords of a language with their roles, in the order in which they are tried. -/
def ranking (language : Language) : List Classification :=
  language.features.map (⟨.feature, ·⟩) ++
    language.backgrounds.map (⟨.background, ·⟩) ++
    language.outlines.map (⟨.scenarioOutline, ·⟩) ++
    language.scenarios.map (⟨.scenario, ·⟩) ++
    language.examples.map (⟨.examples, ·⟩) ++
    language.givens.map (⟨.step .context, ·⟩) ++
    language.whens.map (⟨.step .action, ·⟩) ++
    language.thens.map (⟨.step .outcome, ·⟩) ++
    language.ands.map (⟨.step .conjunction, ·⟩) ++
    language.buts.map (⟨.step .contrast, ·⟩) ++
    [⟨.step .bullet, "* ".toList⟩, ⟨.tag, "@".toList⟩, ⟨.comment, "#".toList⟩,
      ⟨.tableRow, "|".toList⟩, ⟨.step .conjunction, "And ".toList⟩,
      ⟨.step .contrast, "But ".toList⟩, ⟨.examples, "Examples".toList⟩,
      ⟨.background, "Background".toList⟩]

theorem candidates_eq_ranking (language : Language) : candidates language = ranking language := by
  simp [candidates, spokenRoles, common, ranking, Language.words]

/-- The keyword that is found fits, and none that is tried before it does; if no keyword fits,
the line is plain. -/
theorem ofText_cases (language : Language) (text : Text) :
    (ofText language text = plain ∧ ∀ candidate ∈ ranking language, ¬ Fits text.trim candidate) ∨
      ∃ earlier later, ranking language = earlier ++ ofText language text :: later ∧
        Fits text.trim (ofText language text) ∧
        ∀ candidate ∈ earlier, ¬ Fits text.trim candidate := by
  by_cases blank : text.trim = []
  · refine .inl ⟨?_, fun candidate _ fits => fits.ne_nil blank⟩
    rw [ofText, if_pos (Text.trim_eq_nil_iff.mp blank)]
  · have white : text.isBlank ≠ true := fun white => blank (Text.trim_eq_nil_iff.mpr white)
    rw [ofText, if_neg white, ← candidates_eq_ranking]
    simp only [fits_iff_opens blank]
    cases found : (candidates language).find? fun candidate => candidate.opens text.trim with
    | none =>
        rw [List.find?_eq_none] at found
        exact .inl ⟨rfl, found⟩
    | some candidate =>
        rcases List.find?_eq_some_iff_append.mp found with ⟨opens, earlier, later, split, before⟩
        refine .inr ⟨earlier, later, split, opens, fun other listed => ?_⟩
        simpa using before other listed

/-- The classification of a line depends on its trimmed text alone.  It is the first keyword in
the ranking that fits the line, and plain if none does.  The keyword, its colon, whitespace and
what is left of the line make up the line again, unless a step keyword stands alone on it. -/
theorem first_fitting_keyword (language : Language) (text : Text) :
    (∀ other : Text, other.trim = text.trim → ofText language other = ofText language text) ∧
    ((ofText language text = plain ∧ ∀ candidate ∈ ranking language, ¬ Fits text.trim candidate) ∨
      ∃ earlier later, ranking language = earlier ++ ofText language text :: later ∧
        Fits text.trim (ofText language text) ∧
        ∀ candidate ∈ earlier, ¬ Fits text.trim candidate) ∧
    ((ofText language text).role ≠ .plain →
      (∃ gap, gap.isBlank = true ∧
        text.trim = (ofText language text).opening ++ gap ++
          (ofText language text).strip text.trim) ∨
      ((ofText language text).role.isStep = true ∧
        text.trim = (ofText language text).keyword.trimEnd ∧
        (ofText language text).strip text.trim = [])) := by
  refine ⟨fun other same => ofText_congr same, ofText_cases language text, fun solid => ?_⟩
  rcases mem_candidates_of_role solid with ⟨-, opens⟩
  rcases (opens_iff.mp opens).2 with starts | bare
  · exact .inl (exists_gap (Text.trimmed_trim text).2 starts)
  · exact .inr ⟨bare.1, bare.2.2, strip_bare bare⟩

/-- A step keyword of whitespace alone does not fit a blank line, although the line is what is
left of the keyword without the whitespace at its end. -/
theorem blank_line_fits_no_step : ∃ language : Language,
    language.features = [] ∧ language.backgrounds = [] ∧ language.outlines = [] ∧
    language.scenarios = [] ∧ language.examples = [] ∧ language.givens = [" ".toList] ∧
    Text.trimEnd " ".toList ≠ " ".toList ∧ Text.trim [] = Text.trimEnd " ".toList ∧
    ofText language [] = plain := by
  refine ⟨{ Language.english with
    features := [], backgrounds := [], outlines := [], scenarios := [], examples := []
    givens := [" ".toList] }, ?_⟩
  decide

end Classification
end Gherkin
