import Gherkin.Proofs.Writing.Documents

namespace Gherkin

/-!
# Writing loses nothing

In a language in which no step word extends another one, every step is read back
from its own first line as it was.  Then the whole document comes back, apart from
its places and comments.  English is such a language, and so are the others that
come with the library, except French.
-/

/-- A language in which no step word goes on where another one ends. -/
def Language.Unextended (language : Language) : Prop :=
  ∀ candidate ∈ Classification.candidates language, candidate.role.isStep = true →
    ∀ longer ∈ Classification.candidates language, candidate.keyword <+: longer.keyword →
      longer.keyword = candidate.keyword

instance unextendedDecidable (language : Language) : Decidable language.Unextended :=
  inferInstanceAs (Decidable (∀ candidate ∈ Classification.candidates language, _))

theorem LanguageTable.unextended_of_builtin :
    ∀ language ∈ LanguageTable.builtin.entries, language.code ≠ "fr".toList → language.Unextended := by
  decide +kernel

namespace Language.Unextended

variable {language : Language}

/-- Every step is read back as it was. -/
theorem reread_step (unextended : language.Unextended) (regular : language.Regular) {step : Step}
    {line : Line} (head : step.HeadFrom language line) : step.reread language = step := by
  apply head.reread_eq_self regular
  rcases head.classify_headLayout regular 0 with
    same | ⟨-, longer, listed, -, -, -, goesOn, different⟩
  · exact same
  · exact absurd (unextended step.opener head.listed rfl longer listed goesOn) different

theorem reread_steps (unextended : language.Unextended) (regular : language.Regular)
    {steps : List Step} (heads : ∀ step ∈ steps, ∃ line, step.HeadFrom language line) :
    steps.map (Step.reread language) = steps := by
  refine (List.map_congr_left ?_).trans (List.map_id steps)
  intro step listed
  rcases heads step listed with ⟨line, head⟩
  exact unextended.reread_step regular head

/-- A feature is read back as it was. -/
theorem reread_feature (unextended : language.Unextended) (regular : language.Regular)
    {feature : Feature} (heads : ∀ step ∈ feature.steps, ∃ line, step.HeadFrom language line) :
    feature.reread language = feature := by
  have background : feature.background.map (Background.reread language) = feature.background := by
    cases present : feature.background with
    | none => rfl
    | some background =>
        have own : background.steps.map (Step.reread language) = background.steps :=
          unextended.reread_steps regular fun step listed =>
            heads step (List.mem_append_left _ (by simpa [present] using listed))
        simp [Background.reread, own]
  have scenarios : feature.scenarios.map (Scenario.reread language) = feature.scenarios := by
    refine (List.map_congr_left ?_).trans (List.map_id _)
    intro scenario listed
    have own : scenario.steps.map (Step.reread language) = scenario.steps :=
      unextended.reread_steps regular fun step among =>
        heads step (List.mem_append_right _ (List.mem_flatMap.mpr ⟨scenario, listed, among⟩))
    simp [Scenario.reread, own]
  rw [Feature.reread, background, scenarios]

/-- A document is read back as it was. -/
theorem reread_document (unextended : language.Unextended) (regular : language.Regular)
    {document : Document}
    (heads : ∀ feature ∈ document.feature, ∀ step ∈ feature.steps,
      ∃ line, step.HeadFrom language line) : document.reread language = document := by
  have features : document.feature.map (Feature.reread language) = document.feature := by
    cases present : document.feature with
    | none => rfl
    | some feature =>
        rw [Option.map_some, unextended.reread_feature regular (heads feature present)]
  rw [Document.reread, features]

end Language.Unextended

/-- The active language is the one that the directive names, or the default one. -/
theorem Preamble.code_eq {languages : LanguageTable} {texts : List Text} {language : Language}
    {lines : List Line} (preamble : Preamble languages texts language lines) :
    (∃ first ∈ texts.head?, Language.directive? first = some language.code) ∨
      language = languages.defaultLanguage := by
  cases preamble with
  | directive named known =>
      exact .inl ⟨_, rfl, by rw [named, LanguageTable.code_eq known]⟩
  | absent unnamed => exact .inr rfl

/-- Every accepted English document is written so that it is accepted again and that the same
document is read, apart from places and comments. -/
theorem parse_format_erased {uri source : Text} {document : Document}
    (accepted : parse .standard uri source = .ok document)
    (english : ∀ first ∈ (fileLines source).head?, ∀ code ∈ Language.directive? first,
      code = "en".toList) :
    ∃ again, parse .standard uri document.format = .ok again ∧ again.erased = document.erased := by
  rcases exists_parse_format accepted with ⟨language, lines, preamble, heads, again, read, same⟩
  have code : language.code = "en".toList := by
    rcases preamble.code_eq with ⟨first, found, named⟩ | rfl
    · exact english first found language.code named
    · rfl
  have foreign : language.code ≠ "fr".toList := by
    rw [code]
    decide
  have regular := LanguageTable.regular_of_builtin language preamble.mem_entries
  have unextended := LanguageTable.unextended_of_builtin language preamble.mem_entries foreign
  refine ⟨again, read, ?_⟩
  rw [same, unextended.reread_document regular heads]

/-- A document in which indentation, spacing and an escape are not canonical. -/
theorem unindented_document_erased : ∃ document again,
    parse .standard [] "@a @b\nFeature:  f\nScenario: s\nGiven   x\n|a|\\||\n* \n```md\n y\n```".toList =
      .ok document ∧
    parse .standard [] document.format = .ok again ∧ again.erased = document.erased := by
  rcases parse_format_erased (by rfl : parse .standard []
    "@a @b\nFeature:  f\nScenario: s\nGiven   x\n|a|\\||\n* \n```md\n y\n```".toList = .ok _)
    (by decide) with ⟨again, read, same⟩
  exact ⟨_, again, rfl, read, same⟩

end Gherkin
