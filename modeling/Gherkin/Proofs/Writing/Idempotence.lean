import Gherkin.Command
import Gherkin.Proofs.Writing.Roundtrip

namespace Gherkin

open Text (StartsSolid EndsSolid SingleLine)

/-!
# Writing twice

A written document is canonical if reading and writing it once more changes
nothing.  That fails for one reason only.  In French some step words are extended
by `que ` or `qu'`.  Where the text of a step starts with what extends its keyword,
the written line is read with the longer keyword.  If whitespace follows there, the
second writing drops it.
-/

namespace Step

/-- The step words of French that other step words extend. -/
def openWords : List Text :=
  ["Et ", "Mais ", "Sachant ", "Etant donné ", "Étant donné "].map String.toList

/-- What extends them. -/
def joints : List Text :=
  ["que ", "qu'"].map String.toList

/-- The start of the text extends the keyword to a longer one, and whitespace follows it. -/
def Unstable (step : Step) : Prop :=
  step.keyword ∈ openWords ∧
    ∃ joint ∈ joints, ∃ rest, step.text = joint ++ rest ∧ ¬ StartsSolid rest

instance unstableDecidable (step : Step) : Decidable step.Unstable :=
  decidable_of_iff (step.keyword ∈ openWords ∧ ∃ joint ∈ joints,
      joint <+: step.text ∧ ¬ StartsSolid (step.text.drop joint.length)) <| by
    refine and_congr_right fun _ => exists_congr fun joint => and_congr_right fun _ => ?_
    constructor
    · rintro ⟨⟨rest, same⟩, loose⟩
      refine ⟨rest, same.symm, ?_⟩
      rwa [← same, List.drop_left] at loose
    · rintro ⟨rest, same, loose⟩
      refine ⟨⟨rest, same.symm⟩, ?_⟩
      rwa [same, List.drop_left]

end Step

/-- A document of which no step is read back with a longer keyword that loses whitespace. -/
def Document.Stable (document : Document) : Prop :=
  ∀ feature ∈ document.feature, ∀ step ∈ feature.steps, ¬ step.Unstable

instance stableDecidable (document : Document) : Decidable document.Stable :=
  inferInstanceAs (Decidable (∀ feature ∈ document.feature, ∀ step ∈ feature.steps, ¬ step.Unstable))

/-! ## Words that extend each other -/

/-- A longer keyword that is one of those words with what extends it. -/
def Classification.Joined (candidate longer : Classification) : Prop :=
  candidate.keyword ∈ Step.openWords ∧
    ∃ joint ∈ Step.joints, longer.keyword = candidate.keyword ++ joint

instance joinedDecidable (candidate longer : Classification) : Decidable (candidate.Joined longer) :=
  inferInstanceAs (Decidable (_ ∧ ∃ joint ∈ Step.joints, _))

/-- Only those words are extended, and by nothing else. -/
theorem LanguageTable.joined_of_builtin :
    ∀ language ∈ LanguageTable.builtin.entries,
      ∀ candidate ∈ Classification.candidates language, candidate.role.isStep = true →
        ∀ longer ∈ Classification.candidates language, candidate.keyword <+: longer.keyword →
          longer.keyword = candidate.keyword ∨ candidate.Joined longer := by
  decide +kernel

/-- Each of those words is extended in both ways wherever it is a step word. -/
theorem LanguageTable.extended_of_builtin :
    ∀ language ∈ LanguageTable.builtin.entries,
      ∀ candidate ∈ Classification.candidates language, candidate.keyword ∈ Step.openWords →
        ∀ joint ∈ Step.joints, ∃ longer ∈ Classification.candidates language,
          longer.keyword = candidate.keyword ++ joint ∧ longer.role.isStep = true := by
  decide +kernel

/-- Where one step word extends another, the longer one stands first. -/
theorem LanguageTable.longestFirst_of_builtin :
    ∀ language ∈ LanguageTable.builtin.entries,
      (Classification.candidates language).Pairwise fun earlier later =>
        earlier.role.isStep = true → earlier.keyword <+: later.keyword →
          earlier.keyword = later.keyword := by
  decide +kernel

/-- What is found first in a sorted list stands before everything else that fits. -/
private theorem rel_of_find? {Entry : Type} {fits : Entry → Bool} {before : Entry → Entry → Prop}
    {entries : List Entry} {first other : Entry} (found : entries.find? fits = some first)
    (sorted : entries.Pairwise before) (listed : other ∈ entries) (fitting : fits other = true) :
    first = other ∨ before first other := by
  induction entries with
  | nil => cases listed
  | cons head rest inductionHypothesis =>
      rw [List.pairwise_cons] at sorted
      rw [List.find?_cons] at found
      cases own : fits head with
      | true =>
          rw [own] at found
          cases found
          exact (List.mem_cons.mp listed).imp Eq.symm (sorted.1 other)
      | false =>
          rw [own] at found
          rcases List.mem_cons.mp listed with rfl | listed
          · rw [own] at fitting
            cases fitting
          · exact inductionHypothesis found sorted.2 listed

namespace Step

theorem length_joint : ∀ joint ∈ joints, 3 ≤ joint.length ∧ joint.length ≤ 4 := by
  decide

theorem prefix_eq_of_joint {joint other rest : Text} (listed : joint ∈ joints) (among : other ∈ joints)
    (starts : other <+: joint ++ rest) : other = joint := by
  have distinct : ∀ joint ∈ joints, ∀ other ∈ joints, other.take 3 = joint.take 3 → other = joint := by
    decide
  apply distinct joint listed other among
  rcases starts with ⟨behind, same⟩
  have left : 3 ≤ other.length := (length_joint other among).1
  have right : 3 ≤ joint.length := (length_joint joint listed).1
  rw [← List.take_append_of_le_length left, same, List.take_append_of_le_length right]

theorem length_headLayout {step : Step} (present : step.text ≠ []) :
    step.headLayout.length = Layout.stepIndent + (step.keyword.length + step.text.length) := by
  rw [HeadFrom.headLayout_of_ne_nil present, List.length_append, List.length_append,
    List.length_replicate]

theorem length_headLayout_le (step : Step) :
    step.headLayout.length ≤ Layout.stepIndent + (step.keyword.length + step.text.length) := by
  by_cases empty : step.text = []
  · rcases Text.exists_trimEnd step.keyword with ⟨after, -, whole⟩
    have size := congrArg List.length whole
    rw [List.length_append] at size
    rw [headLayout, empty, List.isEmpty_nil, if_pos rfl, Layout.indented, List.length_append,
      List.length_replicate]
    omega
  · exact (length_headLayout empty).le

/-- A step whose keyword and text together end with no whitespace is written as they are. -/
theorem headLayout_of_endsSolid {step : Step} (solid : EndsSolid (step.keyword ++ step.text)) :
    step.headLayout = List.replicate Layout.stepIndent ' ' ++ (step.keyword ++ step.text) := by
  by_cases empty : step.text = []
  · rw [empty, List.append_nil] at solid
    rw [headLayout, empty, List.isEmpty_nil, if_pos rfl, Text.trimEnd_eq_self_iff.mpr solid,
      List.append_nil]
    rfl
  · exact HeadFrom.headLayout_of_ne_nil empty

namespace HeadFrom

variable {language : Language} {step : Step} {line : Line}

/-- The keyword on the written line of a step is its own, or a longer one that its text starts. -/
theorem classify_cases (head : step.HeadFrom language line)
    (listed : language ∈ LanguageTable.builtin.entries) :
    (⟨step.headLayout, 0⟩ : Line).classify language = step.opener ∨
      (step.text ≠ [] ∧ step.keyword ∈ openWords ∧ ∃ joint ∈ joints, ∃ longer : Classification,
        longer.role.isStep = true ∧ longer.keyword = step.keyword ++ joint ∧
        longer.opens (step.keyword ++ step.text) = true ∧
        (step.reread language).keyword = longer.keyword ∧
        (step.reread language).text = longer.strip (step.keyword ++ step.text)) := by
  have regular := LanguageTable.regular_of_builtin language listed
  rcases head.classify_headLayout regular 0 with
    same | ⟨present, longer, among, same, opened, isStep, goesOn, different⟩
  · exact .inl same
  · rcases head.reread_of_longer regular present same isStep with ⟨keyword, text⟩
    rcases LanguageTable.joined_of_builtin language listed step.opener head.listed rfl longer among
      goesOn with equal | ⟨openWord, joint, joined, extended⟩
    · exact absurd equal different
    · exact .inr ⟨present, openWord, joint, joined, longer, isStep, extended, opened, keyword, text⟩

theorem headLayout_reread_of_stable (head : step.HeadFrom language line)
    (listed : language ∈ LanguageTable.builtin.entries) (stable : ¬ step.Unstable) :
    (step.reread language).headLayout = step.headLayout := by
  have regular := LanguageTable.regular_of_builtin language listed
  rcases head.classify_cases listed with
    same | ⟨present, openWord, joint, joined, longer, isStep, extended, opened, keyword, text⟩
  · rw [head.reread_eq_self regular same]
  · rcases (Classification.opens_iff.mp opened).2 with starts | bare
    · rw [Classification.opening_of_isStep isStep, extended, List.prefix_append_right_inj] at starts
      rcases starts with ⟨rest, same⟩
      have solid : StartsSolid rest := by
        by_contra loose
        exact stable ⟨openWord, joint, joined, rest, same.symm, loose⟩
      have ends : EndsSolid (joint ++ rest) := by
        rw [same]
        exact head.trimmed_text.2
      have visible : joint ++ rest ≠ [] := by
        rw [same]
        exact present
      have left : (step.reread language).text = rest := by
        rw [text, ← same, ← List.append_assoc, ← extended, Classification.strip_step isStep]
        exact Text.trim_eq_self ⟨solid, Text.endsSolid_of_append ends⟩
      have whole : (step.reread language).keyword ++ (step.reread language).text =
          step.keyword ++ (joint ++ rest) := by
        rw [keyword, left, extended, List.append_assoc]
      rw [headLayout_of_endsSolid (by rw [whole]; exact Text.endsSolid_append ends visible), whole,
        same, headLayout_of_ne_nil present]
    · have nothing : (step.reread language).text = [] := by
        rw [text]
        exact Classification.strip_bare bare
      rw [headLayout, nothing, List.isEmpty_nil, if_pos rfl, keyword, ← bare.2.2,
        headLayout_of_ne_nil present]
      rfl

/-- A longer keyword stands first, so it takes the written line. -/
theorem classify_ne_opener (head : step.HeadFrom language line)
    (listed : language ∈ LanguageTable.builtin.entries) (unstable : step.Unstable) :
    (⟨step.headLayout, 0⟩ : Line).classify language ≠ step.opener := by
  intro same
  have regular := LanguageTable.regular_of_builtin language listed
  rcases unstable with ⟨openWord, joint, joined, rest, split, -⟩
  have long := (length_joint joint joined).1
  have present : step.text ≠ [] := by
    intro empty
    have size := congrArg List.length split
    rw [empty, List.length_append, List.length_nil] at size
    omega
  rcases LanguageTable.extended_of_builtin language listed step.opener head.listed openWord joint joined
    with ⟨longer, among, extended, isStep⟩
  have written := head.trim_headLayout_of_ne_nil regular present
  have fits : longer.opens (Text.trim step.headLayout) = true := by
    refine Classification.opens_iff.mpr ⟨?_, .inl ?_⟩
    · intro empty
      rw [empty] at extended
      exact (Classification.opens_iff.mp head.opens).1 (List.append_eq_nil_iff.mp extended.symm).1
    · rw [Classification.opening_of_isStep isStep, written, split, extended]
      exact ⟨rest, List.append_assoc _ _ _⟩
  have own : Classification.ofText language step.headLayout = step.opener := same
  have solid : (Classification.ofText language step.headLayout).role ≠ .plain := by
    rw [own]
    exact nofun
  have found := Classification.find?_of_opens among (Classification.isBlank_of_role solid) fits
  rw [own] at found
  rcases rel_of_find? found (LanguageTable.longestFirst_of_builtin language listed) among fits with
    equal | earlier
  · have size := congrArg (fun candidate : Classification => candidate.keyword.length) equal
    simp only [extended, opener, List.length_append] at size
    omega
  · have equal := earlier rfl (by rw [extended]; exact List.prefix_append _ _)
    have size := congrArg List.length equal
    simp only [extended, opener, List.length_append] at size
    omega

/-- An unstable step is shorter when it is written again. -/
theorem length_headLayout_reread_lt (head : step.HeadFrom language line)
    (listed : language ∈ LanguageTable.builtin.entries) (unstable : step.Unstable) :
    (step.reread language).headLayout.length < step.headLayout.length := by
  rcases head.classify_cases listed with
    same | ⟨present, -, other, among, longer, isStep, extended, opened, keyword, text⟩
  · exact absurd same (head.classify_ne_opener listed unstable)
  rcases unstable with ⟨-, joint, joined, rest, split, loose⟩
  have occupied : 0 < rest.length := by
    apply List.length_pos_iff.mpr
    intro empty
    rw [empty] at loose
    exact loose Text.startsSolid_nil
  rcases (Classification.opens_iff.mp opened).2 with starts | bare
  · rw [Classification.opening_of_isStep isStep, extended, List.prefix_append_right_inj, split] at starts
    have same : other = joint := prefix_eq_of_joint joined among starts
    have left : (step.reread language).text = Text.trim rest := by
      rw [text, split, ← same, ← List.append_assoc, ← extended, Classification.strip_step isStep]
    have shorter := Text.length_trim_lt loose
    have bound := length_headLayout_le (step.reread language)
    rw [keyword, extended, same, left, List.length_append] at bound
    rw [length_headLayout present, split, List.length_append]
    omega
  · have whole := congrArg List.length bare.2.2
    have dropped := Text.length_trimEnd_lt_iff.mpr bare.2.1
    have long := (length_joint joint joined).1
    have short := (length_joint other among).2
    simp only [split, extended, List.length_append] at whole dropped
    omega

/-- A step is written the second time as the first time unless it is unstable. -/
theorem headLayout_reread_iff (head : step.HeadFrom language line)
    (listed : language ∈ LanguageTable.builtin.entries) :
    (step.reread language).headLayout = step.headLayout ↔ ¬ step.Unstable := by
  constructor
  · intro same unstable
    have shorter := head.length_headLayout_reread_lt listed unstable
    rw [same] at shorter
    exact Nat.lt_irrefl _ shorter
  · exact head.headLayout_reread_of_stable listed

end HeadFrom

end Step

/-! ## Layouts line by line -/

/-- Two layouts of the same list agree exactly if they agree for every item, as long as the
items have as many lines in both. -/
theorem flatMap_eq_flatMap_iff {Item : Type} {items : List Item} {first second : Item → List Text}
    (even : ∀ item ∈ items, (first item).length = (second item).length) :
    items.flatMap first = items.flatMap second ↔ ∀ item ∈ items, first item = second item := by
  induction items with
  | nil => simp
  | cons item rest inductionHypothesis =>
      have later := inductionHypothesis fun other listed => even other (List.mem_cons_of_mem _ listed)
      rw [List.flatMap_cons, List.flatMap_cons, List.forall_mem_cons, ← later]
      constructor
      · intro same
        exact List.append_inj same (even item List.mem_cons_self)
      · rintro ⟨own, others⟩
        rw [own, others]

namespace Step

theorem length_layout_reread (language : Language) (step : Step) :
    (step.reread language).layout.length = step.layout.length := by
  simp [layout, argument_reread]

theorem layout_reread_iff (language : Language) (step : Step) :
    (step.reread language).layout = step.layout ↔
      (step.reread language).headLayout = step.headLayout := by
  simp [layout, argument_reread]

theorem layouts_reread_iff (language : Language) (steps : List Step) :
    (steps.flatMap fun step => (step.reread language).layout) = steps.flatMap layout ↔
      ∀ step ∈ steps, (step.reread language).headLayout = step.headLayout := by
  simp only [← layout_reread_iff]
  exact flatMap_eq_flatMap_iff fun step _ => length_layout_reread language step

end Step

theorem Background.length_layout_reread (language : Language) (background : Background) :
    (background.reread language).layout.length = background.layout.length := by
  simp [layout, reread, List.flatMap_map, Step.length_layout_reread]

theorem Background.layout_reread_iff (language : Language) (background : Background) :
    (background.reread language).layout = background.layout ↔
      ∀ step ∈ background.steps, (step.reread language).headLayout = step.headLayout := by
  simp only [layout, reread, List.flatMap_map, List.append_cancel_left_eq, Step.layouts_reread_iff]

theorem Scenario.length_layout_reread (language : Language) (scenario : Scenario) :
    (scenario.reread language).layout.length = scenario.layout.length := by
  simp [layout, reread, List.flatMap_map, Step.length_layout_reread]

theorem Scenario.layout_reread_iff (language : Language) (scenario : Scenario) :
    (scenario.reread language).layout = scenario.layout ↔
      ∀ step ∈ scenario.steps, (step.reread language).headLayout = step.headLayout := by
  simp only [layout, reread, List.flatMap_map, List.append_cancel_left_eq,
    List.append_cancel_right_eq, Step.layouts_reread_iff]

theorem Feature.forall_steps_iff (feature : Feature) (holds : Step → Prop) :
    (∀ step ∈ feature.steps, holds step) ↔
      (∀ background ∈ feature.background, ∀ step ∈ background.steps, holds step) ∧
        ∀ scenario ∈ feature.scenarios, ∀ step ∈ scenario.steps, holds step := by
  simp only [steps, List.forall_mem_append, List.forall_mem_flatMap]
  cases feature.background with
  | none => simp
  | some background => simp

/-- A feature is written the second time as the first time exactly if the lines of its steps are. -/
theorem Feature.layout_reread_iff (language : Language) (feature : Feature) :
    (feature.reread language).layout = feature.layout ↔
      ∀ step ∈ feature.steps, (step.reread language).headLayout = step.headLayout := by
  have scenarios :
      feature.scenarios.flatMap (fun scenario => [[]] ++ (scenario.reread language).layout) =
          feature.scenarios.flatMap (fun scenario => [[]] ++ scenario.layout) ↔
        ∀ scenario ∈ feature.scenarios, ∀ step ∈ scenario.steps,
          (step.reread language).headLayout = step.headLayout := by
    simp only [← Scenario.layout_reread_iff]
    refine (flatMap_eq_flatMap_iff fun scenario _ => ?_).trans ?_
    · simp [Scenario.length_layout_reread]
    · simp only [List.append_cancel_left_eq]
  rw [Feature.forall_steps_iff, ← scenarios]
  cases present : feature.background with
  | none =>
      simp only [layout, reread, present, List.flatMap_map, List.append_cancel_left_eq, Option.map_none]
      simp
  | some background =>
      have even := Background.length_layout_reread language background
      simp only [layout, reread, present, List.flatMap_map, Option.map_some, Option.getD_some,
        Option.mem_def, Option.some.injEq, forall_eq', ← Background.layout_reread_iff,
        List.append_assoc, List.append_cancel_left_eq]
      constructor
      · intro same
        exact List.append_inj same even
      · intro same
        rw [same.1, same.2]

/-- A document is written the second time as the first time exactly if it is stable. -/
theorem Document.layout_reread_iff {language : Language}
    (listed : language ∈ LanguageTable.builtin.entries) {document : Document}
    (heads : ∀ feature ∈ document.feature, ∀ step ∈ feature.steps,
      ∃ line, step.HeadFrom language line) :
    (document.reread language).layout = document.layout ↔ document.Stable := by
  unfold Document.Stable
  cases present : document.feature with
  | none => simp [layout, reread, present]
  | some feature =>
      have stable : ∀ step ∈ feature.steps,
          ((step.reread language).headLayout = step.headLayout ↔ ¬ step.Unstable) := by
        intro step among
        rcases heads feature present step among with ⟨line, head⟩
        exact head.headLayout_reread_iff listed
      simp only [layout, reread, present, Option.map_some, Option.getD_some,
        Feature.layout_reread_iff, Option.mem_def, Option.some.injEq, forall_eq']
      exact forall₂_congr stable

/-- Only a document that chooses French can be unstable. -/
theorem stable_of_accepted {uri source : Text} {document : Document}
    (accepted : parse .standard uri source = .ok document)
    (foreign : ∀ first ∈ (fileLines source).head?, Language.directive? first ≠ some "fr".toList) :
    document.Stable := by
  rcases exists_parse_format accepted with ⟨language, lines, preamble, heads, -⟩
  have code : language.code ≠ "fr".toList := by
    rcases preamble.code_eq with ⟨first, found, named⟩ | rfl
    · intro french
      rw [french] at named
      exact foreign first found named
    · decide
  have regular := LanguageTable.regular_of_builtin language preamble.mem_entries
  have unextended := LanguageTable.unextended_of_builtin language preamble.mem_entries code
  refine (Document.layout_reread_iff preamble.mem_entries heads).mp ?_
  rw [unextended.reread_document regular heads]

/-- The path of a file does nothing but name the document. -/
theorem parse_of_accepted {uri source : Text} {document : Document}
    (accepted : parse .standard uri source = .ok document) (path : Text) :
    parse .standard path source = .ok { document with uri := path } := by
  rcases parseLines_eq_ok_iff.mp accepted with ⟨language, lines, final, preamble, run, shut, free, rfl⟩
  exact parseLines_eq_ok_iff.mpr ⟨language, lines, final, preamble, run, shut, free, rfl⟩

/-- What is written of an accepted document is accepted again, and it is written again as it
is exactly if the document is stable.  Exactly then a file with what was written passes the
check. -/
theorem format_eq_iff_stable {uri source : Text} {document : Document}
    (accepted : parse .standard uri source = .ok document) :
    ∃ again, parse .standard uri document.format = .ok again ∧
      (again.format = document.format ↔ document.Stable) ∧
      ∀ path, Command.performOn .check path
            (.ok (Command.performOn .format uri (.ok source)).output) =
          .success [] (Command.message (path ++ ": formatted".toList)) ↔ document.Stable := by
  rcases exists_parse_format accepted with ⟨language, lines, preamble, heads, again, read, same⟩
  have kept : again.layout = (document.reread language).layout := by
    rw [← Document.layout_erased, same, Document.layout_erased]
  have stable : again.format = document.format ↔ document.Stable := by
    rw [← Document.layout_reread_iff preamble.mem_entries heads, ← kept]
    exact Text.endLines_inj (singleLine_layout_of_accepted read) (singleLine_layout_of_accepted accepted)
  refine ⟨again, read, stable, ?_⟩
  intro path
  have printed : (Command.performOn .format uri (.ok source)).output = document.format := by
    simp only [Command.performOn, accepted]
    rfl
  have written : ({ again with uri := path } : Document).format = again.format := rfl
  rw [← stable, printed]
  simp only [Command.performOn, parse_of_accepted read path, Command.perform, written]
  split_ifs with formatted
  · exact iff_of_true rfl formatted
  · exact iff_of_false nofun formatted

/-- A French document in which one step has the longer keyword from the start. -/
theorem extended_step_written_twice : ∃ document again,
    parse .standard [] "# language: fr\nFonctionnalité: f\nScénario: s\nEt  que il\nEt qu'il\n".toList =
      .ok document ∧
    parse .standard [] document.format = .ok again ∧ again.format = document.format := by
  rcases format_eq_iff_stable (by rfl : parse .standard []
    "# language: fr\nFonctionnalité: f\nScénario: s\nEt  que il\nEt qu'il\n".toList = .ok _) with
    ⟨again, read, same, -⟩
  exact ⟨_, again, rfl, read, same.mpr (by decide)⟩

/-- Two spaces behind `Et` and one behind `qu'` are lost one after the other. -/
theorem spaced_step_written_differently : ∃ document again,
    parse .standard [] "# language: fr\nFonctionnalité: f\n  Scénario: s\n    Et  qu' il\n".toList =
      .ok document ∧
    parse .standard [] document.format = .ok again ∧ again.format ≠ document.format :=
  ⟨_, _, by rfl, by rfl, by decide⟩

end Gherkin
