import Gherkin.Proofs.Reading.Alike
import Gherkin.Proofs.Reading.DocStrings
import Gherkin.Proofs.Reading.Unnoticed

namespace Gherkin

/-!
# Two runs side by side

Two documents are read, each from its own lines, and their doc-strings are not
compared as they are but after a change, one for each of the runs.  Outside of
doc-strings the lines have to be alike, and inside they have to keep the open
doc-strings in correspondence.  Then both runs note the same faults, and in the
end they differ only in what the changes of doc-strings conceal.

One step of the two runs is `add_eq_of_admits`; whole runs follow by induction on
the lines.
-/

/-! ## Lines of an open doc-string -/

/-- Whatever corresponds to the doc-string still does so when it reads the other line and the
doc-string reads its own. -/
def DocString.Draft.Follows (change again : Draft → Draft) (line other : Line) (docString : Draft) : Prop :=
  ∀ copy, again copy = change docString → again (copy.add other) = change (docString.add line)

section

variable {change again : DocString.Draft → DocString.Draft} {line other : Line}
  {docString : DocString.Draft}
variable (dialect : Dialect) (unnoticed : DocString.Draft.Unnoticed change)
  (unnoticedCopy : DocString.Draft.Unnoticed again) (follows : docString.Follows change again line other)

include unnoticed unnoticedCopy follows

theorem Body.Draft.exists_content {body copy : Body.Draft}
    (same : copy.mapDocStrings again = body.mapDocStrings change)
    (opened : body.openDocString? = some docString) :
    ∃ next nextCopy, Takes dialect line body next [] ∧ Takes dialect other copy nextCopy [] ∧
      nextCopy.mapDocStrings again = next.mapDocStrings change := by
  rcases openDocString?_eq_some_iff.mp opened with ⟨step, earlier, steps, begun, isOpen⟩
  rcases body with ⟨description, _⟩
  rcases copy with ⟨descriptionCopy, stepsCopy⟩
  cases steps
  cases stepsCopy with
  | nil => simp [mapDocStrings] at same
  | cons stepCopy earlierCopy =>
      rcases step with ⟨kind, keyword, text, location, table, _⟩
      rcases stepCopy with ⟨kindCopy, keywordCopy, textCopy, locationCopy, tableCopy, docStringCopy⟩
      cases begun
      simp only [mapDocStrings, List.map_cons, Step.Draft.mapDocStrings, Option.map_some,
        Body.Draft.mk.injEq, List.cons.injEq, Step.Draft.mk.injEq, Option.map_eq_some_iff] at same
      rcases same with ⟨rfl, ⟨rfl, rfl, rfl, rfl, rfl, copied, rfl, alike⟩, before⟩
      have isOpenCopy : copied.isOpen = true := by
        rw [← unnoticedCopy.isOpen_eq, alike, unnoticed.isOpen_eq, isOpen]
      refine ⟨_, _, .content rfl rfl isOpen, .content rfl rfl isOpenCopy, ?_⟩
      simp [mapDocStrings, Step.Draft.mapDocStrings, follows copied alike, before]

theorem Feature.Draft.exists_content {feature copy : Feature.Draft}
    (same : copy.mapDocStrings again = feature.mapDocStrings change)
    (opened : feature.openDocString? = some docString) :
    ∃ next nextCopy, Takes dialect line feature next [] ∧ Takes dialect other copy nextCopy [] ∧
      nextCopy.mapDocStrings again = next.mapDocStrings change := by
  have inside := inDocString_of_opened opened
  have insideCopy : copy.inDocString = true := by
    rw [← inDocString_mapDocStrings unnoticedCopy, same, inDocString_mapDocStrings unnoticed, inside]
  rcases feature with ⟨heading, tags, description, background, scenarios⟩
  rcases copy with ⟨headingCopy, tagsCopy, descriptionCopy, backgroundCopy, scenariosCopy⟩
  simp only [mapDocStrings, Feature.Draft.mk.injEq] at same
  rcases same with ⟨rfl, rfl, rfl, backgrounds, lists⟩
  cases scenarios with
  | cons scenario earlier =>
      rcases List.map_eq_cons_iff.mp lists with ⟨scenarioCopy, earlierCopy, rfl, last, before⟩
      rcases scenario with ⟨heading, tags, isOutline, body, examples⟩
      rcases scenarioCopy with ⟨headingCopy, tagsCopy, isOutlineCopy, bodyCopy, examplesCopy⟩
      simp only [Scenario.Draft.mapDocStrings, Scenario.Draft.mk.injEq] at last
      rcases last with ⟨rfl, rfl, rfl, bodies, rfl⟩
      rcases Body.Draft.exists_content dialect unnoticed unnoticedCopy follows bodies opened with
        ⟨next, nextCopy, taken, takenCopy, later⟩
      refine ⟨_, _, .scenario rfl (.inl inside) taken, .scenario rfl (.inl insideCopy) takenCopy, ?_⟩
      simp [mapDocStrings, Scenario.Draft.mapDocStrings, later, before, backgrounds]
  | nil =>
      cases List.map_eq_nil_iff.mp lists
      rcases Option.bind_eq_some_iff.mp opened with ⟨background, rfl, inBody⟩
      rcases Option.map_eq_some_iff.mp backgrounds with ⟨backgroundCopy, rfl, last⟩
      rcases background with ⟨heading, body⟩
      rcases backgroundCopy with ⟨headingCopy, bodyCopy⟩
      simp only [Background.Draft.mapDocStrings, Background.Draft.mk.injEq] at last
      rcases last with ⟨rfl, bodies⟩
      rcases Body.Draft.exists_content dialect unnoticed unnoticedCopy follows bodies inBody with
        ⟨next, nextCopy, taken, takenCopy, later⟩
      refine ⟨_, _, .background rfl rfl taken, .background rfl rfl takenCopy, ?_⟩
      simp [mapDocStrings, Background.Draft.mapDocStrings, later]

/-- Either line goes to the open doc-string of its own run, whatever the lines are, and the drafts
still correspond. -/
theorem Document.Draft.exists_content {draft copy : Document.Draft}
    (same : copy.mapDocStrings again = draft.mapDocStrings change)
    (opened : draft.openDocString? = some docString) :
    ∃ next nextCopy, Takes dialect line draft next [] ∧ Takes dialect other copy nextCopy [] ∧
      nextCopy.mapDocStrings again = next.mapDocStrings change := by
  have inside := inDocString_of_opened opened
  have insideCopy : copy.inDocString = true := by
    rw [← inDocString_mapDocStrings unnoticedCopy, same, inDocString_mapDocStrings unnoticed, inside]
  rcases draft with ⟨language, lastLine, comments, pending, feature⟩
  rcases copy with ⟨languageCopy, lastLineCopy, commentsCopy, pendingCopy, featureCopy⟩
  simp only [mapDocStrings, Document.Draft.mk.injEq] at same
  rcases same with ⟨rfl, rfl, rfl, rfl, features⟩
  rcases Option.bind_eq_some_iff.mp opened with ⟨feature, rfl, inFeature⟩
  rcases Option.map_eq_some_iff.mp features with ⟨featureCopy, rfl, alike⟩
  rcases Feature.Draft.exists_content dialect unnoticed unnoticedCopy follows alike inFeature with
    ⟨next, nextCopy, taken, takenCopy, later⟩
  refine ⟨_, _, .inner rfl (.inl inside) taken, .inner rfl (.inl insideCopy) takenCopy, ?_⟩
  simp [mapDocStrings, later]

end

/-! ## Two runs -/

theorem Reading.settle_eq_of_within {α β γ : Type} {enclose : α → γ} {encloseCopy : β → γ}
    {reading : Reading α} {readingCopy : Reading β} {previous : α} {previousCopy : β} {line other : Line}
    (same : readingCopy.within encloseCopy = reading.within enclose)
    (before : encloseCopy previousCopy = enclose previous)
    (refused : ∀ expected, reading = .error expected →
      other.trimmed = line.trimmed ∧ other.location = line.location) :
    encloseCopy (readingCopy.settle previousCopy other).1 = enclose (reading.settle previous line).1 ∧
      (readingCopy.settle previousCopy other).2 = (reading.settle previous line).2 := by
  cases reading with
  | ok result =>
      rcases within_eq_ok_iff.mp same with ⟨inner, rfl, later⟩
      exact ⟨later.symm, rfl⟩
  | error expected =>
      rcases refused expected rfl with ⟨trimmed, location⟩
      cases readingCopy with
      | ok result => cases same
      | error expectedCopy =>
          cases same
          exact ⟨before, by rw [settle, trimmed, location, settle]⟩

namespace Document.Draft

variable {change again : DocString.Draft → DocString.Draft} {settings : Settings}

/-- What makes it possible to read one line where the other run reads the other line: outside
of doc-strings the lines are alike, and inside both keep the open doc-string in correspondence. -/
structure Admits (change again : DocString.Draft → DocString.Draft) (line other : Line) (draft : Draft) :
    Prop where
  number_eq : other.number = line.number
  directive_eq : directive? other = directive? line
  alike : draft.inDocString = false → line.Alike other
  follows : ∀ docString ∈ draft.openDocString?, docString.Follows change again line other

/-- Two lists of lines that can be read side by side. -/
inductive AdmitsAll (change again : DocString.Draft → DocString.Draft) (settings : Settings) :
    Draft → List Line → List Line → Prop
  | nil (draft : Draft) : draft.AdmitsAll change again settings [] []
  | cons {draft : Draft} {line other : Line} {lines others : List Line}
      (first : draft.Admits change again line other)
      (later : (draft.add settings line).1.AdmitsAll change again settings lines others) :
      draft.AdmitsAll change again settings (line :: lines) (other :: others)

theorem endFaults_mapDocStrings (unnoticed : DocString.Draft.Unnoticed change) (draft : Draft) :
    (draft.mapDocStrings change).endFaults = draft.endFaults := by
  rw [endFaults, inDocString_mapDocStrings unnoticed, expectedAfterTags_mapDocStrings, endFaults]
  rfl

variable {draft copy : Draft} {line other : Line}
variable (unnoticed : DocString.Draft.Unnoticed change)
  (unnoticedCopy : DocString.Draft.Unnoticed again)

include unnoticed unnoticedCopy

theorem place_eq_of_admits (dialect : Dialect) (admits : draft.Admits change again line other)
    (same : copy.mapDocStrings again = draft.mapDocStrings change) :
    (copy.place dialect other).within (mapDocStrings again) =
      (draft.place dialect line).within (mapDocStrings change) := by
  cases opened : draft.openDocString? with
  | some docString =>
      rcases exists_content dialect unnoticed unnoticedCopy (admits.follows docString opened) same opened
        with ⟨next, nextCopy, taken, takenCopy, later⟩
      rw [place_eq_ok_iff.mpr taken, place_eq_ok_iff.mpr takenCopy, Reading.within_ok,
        Reading.within_ok, later]
  | none =>
      have outside : draft.inDocString = false := by rw [← isSome_openDocString?, opened]; rfl
      have outsideCopy : copy.inDocString = false := by
        rw [← inDocString_mapDocStrings unnoticedCopy, same, inDocString_mapDocStrings unnoticed, outside]
      -- The changes are made before the line is read instead of after it, where they meet.
      rw [← place_mapDocStrings unnoticedCopy outsideCopy, same, place_mapDocStrings unnoticed outside,
        place_eq_of_alike (admits.alike outside) outside]

/-- The lines have the same faults, and the drafts still correspond. -/
theorem add_eq_of_admits (admits : draft.Admits change again line other)
    (same : copy.mapDocStrings again = draft.mapDocStrings change) :
    (copy.add settings other).1.mapDocStrings again = (draft.add settings line).1.mapDocStrings change ∧
      (copy.add settings other).2 = (draft.add settings line).2 := by
  have dialect : settings.dialect copy.language = settings.dialect draft.language :=
    congrArg (fun reached => settings.dialect reached.language) same
  have numbered (last : Nat) : ({ copy with lastLine := last } : Draft).mapDocStrings again =
      ({ draft with lastLine := last } : Draft).mapDocStrings change :=
    congrArg (fun reached => { reached with lastLine := last }) same
  simp only [add, admits.directive_eq, admits.number_eq]
  cases directive? line with
  | some code =>
      simp only [chooseLanguage]
      cases settings.languages.get? code with
      | none => exact ⟨numbered line.number, rfl⟩
      | some language =>
          exact ⟨congrArg (fun reached => { reached with language := language }) (numbered line.number), rfl⟩
  | none =>
      have admitted : ({ draft with lastLine := line.number } : Draft).Admits change again line other :=
        ⟨admits.number_eq, admits.directive_eq, admits.alike, admits.follows⟩
      rw [dialect]
      refine Reading.settle_eq_of_within
        (place_eq_of_admits unnoticed unnoticedCopy _ admitted (numbered line.number))
        (congrArg (fun reached => { reached with pending := none }) (numbered line.number)) ?_
      intro expected read
      have free := outside_of_place_eq_error read
      have alike := admits.alike free.1
      exact ⟨alike.trimmed_eq, alike.location_eq free.2⟩

/-- The runs have the same faults, and the drafts correspond in the end. -/
theorem addAll_eq_of_admitsAll {lines others : List Line}
    (admits : draft.AdmitsAll change again settings lines others)
    (same : copy.mapDocStrings again = draft.mapDocStrings change) :
    (copy.addAll settings others).1.mapDocStrings again =
        (draft.addAll settings lines).1.mapDocStrings change ∧
      (copy.addAll settings others).2 = (draft.addAll settings lines).2 := by
  induction admits generalizing copy with
  | nil => exact ⟨same, rfl⟩
  | cons first later inductionHypothesis =>
      rcases add_eq_of_admits unnoticed unnoticedCopy first same with ⟨next, faults⟩
      rcases inductionHypothesis next with ⟨final, faultsLater⟩
      exact ⟨final, congrArg₂ (· ++ ·) faults faultsLater⟩

end Document.Draft

/-- Of two documents that are read side by side, the reports are the same and the drafts
correspond. -/
theorem readDocument_eq_of_admitsAll {change again : DocString.Draft → DocString.Draft}
    {settings : Settings} (uri : Text) {lines others : List Line}
    (unnoticed : DocString.Draft.Unnoticed change) (unnoticedCopy : DocString.Draft.Unnoticed again)
    (admits : (Document.Draft.empty settings).AdmitsAll change again settings lines others) :
    ((Document.Draft.empty settings).addAll settings others).1.mapDocStrings again =
        ((Document.Draft.empty settings).addAll settings lines).1.mapDocStrings change ∧
      (readDocument settings uri others).2 = (readDocument settings uri lines).2 := by
  rcases Document.Draft.addAll_eq_of_admitsAll unnoticed unnoticedCopy admits rfl with ⟨drafts, faults⟩
  refine ⟨drafts, ?_⟩
  simp only [readDocument_eq, faults]
  rw [← Document.Draft.endFaults_mapDocStrings unnoticedCopy, drafts,
    Document.Draft.endFaults_mapDocStrings unnoticed]

end Gherkin
