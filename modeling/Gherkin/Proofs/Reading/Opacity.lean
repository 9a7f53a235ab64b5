import Gherkin.Proofs.Reading.Correspondence

namespace Gherkin

/-!
# Doc-strings are opaque

While a doc-string is open, nothing is made of a line but a line of its content,
even if the line looks like a keyword line, a tag line, a comment, a row, or the
other separator.  So a document does not depend on these lines, apart from the
content of that one doc-string, and neither do the faults that are noted.

The proof follows two runs with different lines side by side.  If the body of the
doc-string is blotted out in both, they cannot be told apart.
-/

/-- The doc-string with other content if it is the one that begins at the given place. -/
def DocString.withContentAt (place : Location) (content : Text) (docString : DocString) : DocString :=
  if docString.location = place then { docString with content := content } else docString

/-! ## The body of one doc-string -/

namespace DocString.Draft

/-- The doc-string with another body if it is the one that begins at the given place. -/
def withBodyAt (place : Location) (body : List Text) (docString : Draft) : Draft :=
  if docString.opening.location = place then { docString with body := body } else docString

variable {place : Location} {body : List Text} {docString copy : Draft} {line other : Line}

theorem withBodyAt_of_eq (here : docString.opening.location = place) :
    docString.withBodyAt place body = { docString with body := body } :=
  if_pos here

theorem withBodyAt_of_ne (elsewhere : docString.opening.location ≠ place) :
    docString.withBodyAt place body = docString :=
  if_neg elsewhere

@[simp] theorem withBodyAt_opening : (docString.withBodyAt place body).opening = docString.opening := by
  unfold withBodyAt
  split_ifs <;> rfl

@[simp] theorem withBodyAt_isOpen : (docString.withBodyAt place body).isOpen = docString.isOpen := by
  unfold withBodyAt
  split_ifs <;> rfl

theorem finish_withBodyAt (docString : Draft) :
    (docString.withBodyAt place body).finish =
      docString.finish.withContentAt place (Text.joinLines (Text.innerLines body.reverse)) := by
  by_cases here : docString.opening.location = place
  · rw [withBodyAt_of_eq here]
    exact (if_pos here).symm
  · rw [withBodyAt_of_ne here]
    exact (if_neg here).symm

theorem unnoticed_withBodyAt (place : Location) : Unnoticed (withBodyAt place []) where
  isOpen_eq _ := withBodyAt_isOpen
  opening_eq opening := by
    unfold withBodyAt
    split_ifs <;> rfl

/-- Without its body, a doc-string shows of a line no more than whether it is the closing line. -/
theorem withBodyAt_add (here : docString.opening.location = place) :
    (docString.add line).withBodyAt place body =
      ⟨docString.opening, body, docString.isOpen && !line.startsWith docString.opening.separator⟩ := by
  rw [withBodyAt_of_eq (by rw [add_opening, here])]
  rcases docString with ⟨opening, old, isOpen⟩
  cases isOpen <;> cases closing : line.startsWith opening.separator <;> simp [add, closing]

theorem follows_same (docString : Draft) :
    docString.Follows (withBodyAt place []) (withBodyAt place []) line line := by
  intro copy same
  have opening : copy.opening = docString.opening := by simpa using congrArg Draft.opening same
  have isOpen : copy.isOpen = docString.isOpen := by simpa using congrArg Draft.isOpen same
  by_cases here : docString.opening.location = place
  · rw [withBodyAt_add here, withBodyAt_add (opening ▸ here), opening, isOpen]
  · rw [withBodyAt_of_ne here, withBodyAt_of_ne (opening ▸ here)] at same
    rw [same]

/-- Any line that does not close the doc-string can take the place of another such line. -/
theorem follows_of_unmarked (here : docString.opening.location = place)
    (unmarked : line.startsWith docString.opening.separator = false)
    (unmarkedOther : other.startsWith docString.opening.separator = false) :
    docString.Follows (withBodyAt place []) (withBodyAt place []) line other := by
  intro copy same
  have opening : copy.opening = docString.opening := by simpa using congrArg Draft.opening same
  have isOpen : copy.isOpen = docString.isOpen := by simpa using congrArg Draft.isOpen same
  rw [withBodyAt_add here, withBodyAt_add (opening ▸ here), opening, isOpen, unmarked, unmarkedOther]

/-- At most one doc-string begins at the given place. -/
theorem Ordered.exists_body {last : Nat} {docStrings : List Draft} (ordered : Ordered last docStrings)
    (place : Location) : ∃ body, ∀ docString ∈ docStrings, docString.withBodyAt place body = docString := by
  induction docStrings with
  | nil => exact ⟨[], fun _ listed => absurd listed List.not_mem_nil⟩
  | cons later earlier inductionHypothesis =>
      have rising := List.pairwise_cons.mp ordered.rising
      by_cases here : later.opening.location = place
      · refine ⟨later.body, List.forall_mem_cons.mpr ⟨withBodyAt_of_eq here, ?_⟩⟩
        intro docString listed
        refine withBodyAt_of_ne fun same => ?_
        have before := rising.1 docString listed
        rw [same, here] at before
        exact Nat.lt_irrefl _ before
      · rcases inductionHypothesis ⟨(List.forall_mem_cons.mp ordered.bounded).2, rising.2⟩ with
          ⟨body, kept⟩
        exact ⟨body, List.forall_mem_cons.mpr ⟨withBodyAt_of_ne here, kept⟩⟩

end DocString.Draft

/-! ## Lists of lines -/

/-- The doc-string that takes the next line, if one is open. -/
def Document.Reader.openDocString? (reader : Document.Reader) : Option DocString.Draft :=
  match reader.phase with
  | .beforeFeature | .header => none
  | .background => reader.background.bind fun background => background.body.openDocString?
  | .scenarios => reader.scenarios.head?.bind fun scenario => scenario.body.openDocString?

/-- Two lines that can stand for each other behind `reader`: the doc-string that begins at the given
place is open, and neither line starts with its separator. -/
def Document.Reader.HidesWithin (place : Location) (text other : Text) (reader : Document.Reader) : Prop :=
  ∃ docString ∈ reader.openDocString?, docString.opening.location = place ∧
    docString.opening.separator.isPrefixOf text.trim = false ∧
    docString.opening.separator.isPrefixOf other.trim = false

instance (place : Location) (text other : Text) (reader : Document.Reader) :
    Decidable (reader.HidesWithin place text other) :=
  inferInstanceAs (Decidable (∃ docString ∈ reader.openDocString?, _))

/-- The lists have the same length and differ only in lines that are read while the doc-string at
the given place is open, and that do not start with its separator. -/
structure DocString.DifferWithin (settings : Settings) (place : Location) (texts others : List Text) :
    Prop where
  length_eq : others.length = texts.length
  hidden : ∀ index text other, texts[index]? = some text → others[index]? = some other → other ≠ text →
    ((Document.Reader.empty settings).readAll settings
      (Line.numberFrom 1 (texts.take index))).1.HidesWithin place text other

namespace Document.Draft

open DocString.Draft (withBodyAt)

variable {settings : Settings} {place : Location} {draft : Draft}

theorem admits_same (draft : Draft) (line : Line) :
    draft.Admits (withBodyAt place []) (withBodyAt place []) line line where
  number_eq := rfl
  directive_eq := rfl
  alike _ := .refl line
  follows docString _ := docString.follows_same

theorem openDocString?_reader (draft : Draft) : draft.reader.openDocString? = draft.openDocString? := by
  rcases draft with ⟨language, last, comments, pending, _ | ⟨heading, tags, description, background, scenarios⟩⟩
  · rfl
  · cases scenarios with
    | cons scenario earlier => rfl
    | nil => cases background <;> rfl

theorem admits_of_hidesWithin {text other : Text} (hides : draft.reader.HidesWithin place text other)
    {number : Nat} (later : number ≠ 1) :
    draft.Admits (withBodyAt place []) (withBodyAt place []) ⟨text, number⟩ ⟨other, number⟩ := by
  rcases hides with ⟨docString, opened, here, unmarked, unmarkedOther⟩
  rw [openDocString?_reader] at opened
  refine ⟨rfl, ?_, ?_, ?_⟩
  · rw [directive?, directive?, if_neg later, if_neg later]
  · intro outside
    rw [inDocString_of_opened opened] at outside
    cases outside
  · intro found present
    cases Option.mem_unique opened present
    exact DocString.Draft.follows_of_unmarked here unmarked unmarkedOther

/-- No doc-string is open on line 1, where a directive could be. -/
private theorem admitsAll_of_differing {first : Nat} {texts others : List Text}
    (positive : 0 < first) (begins : first = 1 → draft.openDocString? = none)
    (length_eq : others.length = texts.length)
    (hidden : ∀ index text other, texts[index]? = some text → others[index]? = some other →
      other ≠ text →
      (draft.reader.readAll settings (Line.numberFrom first (texts.take index))).1.HidesWithin
        place text other) :
    draft.AdmitsAll (withBodyAt place []) (withBodyAt place []) settings
      (Line.numberFrom first texts) (Line.numberFrom first others) := by
  induction texts generalizing others draft first with
  | nil =>
      cases List.length_eq_zero_iff.mp length_eq
      exact .nil draft
  | cons text rest inductionHypothesis =>
      cases others with
      | nil => cases length_eq
      | cons other othersRest =>
          refine .cons ?_ ?_
          · by_cases same : other = text
            · rw [same]
              exact admits_same draft _
            · have hides : draft.reader.HidesWithin place text other := hidden 0 text other rfl rfl same
              refine admits_of_hidesWithin hides fun start => ?_
              rcases hides with ⟨docString, opened, -⟩
              rw [openDocString?_reader, begins start] at opened
              cases opened
          · refine inductionHypothesis (Nat.succ_pos first)
              (fun start => absurd start (Nat.succ_ne_succ_iff.mpr positive.ne')) ?_ ?_
            · exact Nat.succ.inj length_eq
            · intro index
              have later := hidden (index + 1)
              simpa only [List.getElem?_cons_succ, List.take_succ_cons, Line.numberFrom, Reader.readAll,
                read_reader, Prod.map_fst] using later

end Document.Draft

/-- Blotting out a body and writing it anew gives the document back if the body was the right one. -/
private theorem exists_eq_withBodyAt {draft copy : Document.Draft} {place : Location} {last : Nat}
    (ordered : DocString.Draft.Ordered last copy.docStrings)
    (same : copy.mapDocStrings (DocString.Draft.withBodyAt place []) =
      draft.mapDocStrings (DocString.Draft.withBodyAt place [])) :
    ∃ body, copy = draft.mapDocStrings (DocString.Draft.withBodyAt place body) := by
  rcases ordered.exists_body place with ⟨body, kept⟩
  have overwritten : DocString.Draft.withBodyAt place body ∘ DocString.Draft.withBodyAt place [] =
      DocString.Draft.withBodyAt place body := by
    funext docString
    simp only [Function.comp_apply, DocString.Draft.withBodyAt]
    split_ifs <;> rfl
  refine ⟨body, ?_⟩
  calc
    copy = copy.mapDocStrings id := copy.mapDocStrings_id.symm
    _ = copy.mapDocStrings (DocString.Draft.withBodyAt place body) :=
      (Document.Draft.mapDocStrings_congr kept).symm
    _ = (copy.mapDocStrings (DocString.Draft.withBodyAt place [])).mapDocStrings
          (DocString.Draft.withBodyAt place body) := by
      rw [Document.Draft.mapDocStrings_mapDocStrings, overwritten]
    _ = draft.mapDocStrings (DocString.Draft.withBodyAt place body) := by
      rw [same, Document.Draft.mapDocStrings_mapDocStrings, overwritten]

/-- Lines of an open doc-string that do not start with its separator can be exchanged for other
such lines: the same faults are noted, and the documents are the same except for the content of
that doc-string, which is the only one at its place. -/
theorem readDocument_of_differWithin {settings : Settings} {place : Location} {texts others : List Text}
    (uri : Text) (differ : DocString.DifferWithin settings place texts others) :
    (∃ content, readDocument settings uri (Line.numberFrom 1 others) =
      ((readDocument settings uri (Line.numberFrom 1 texts)).1.mapDocStrings
          (DocString.withContentAt place content),
        (readDocument settings uri (Line.numberFrom 1 texts)).2)) ∧
    ((readDocument settings uri (Line.numberFrom 1 texts)).1.docStrings.map DocString.location).Nodup := by
  have unnoticed := DocString.Draft.unnoticed_withBodyAt place
  have admits : (Document.Draft.empty settings).AdmitsAll (DocString.Draft.withBodyAt place [])
      (DocString.Draft.withBodyAt place []) settings (Line.numberFrom 1 texts) (Line.numberFrom 1 others) :=
    Document.Draft.admitsAll_of_differing Nat.zero_lt_one (fun _ => rfl) differ.length_eq differ.hidden
  rcases readDocument_eq_of_admitsAll uri unnoticed unnoticed admits with ⟨drafts, reports⟩
  rcases Document.Draft.exists_ordered settings others with ⟨last, ordered⟩
  rcases exists_eq_withBodyAt ordered drafts with ⟨body, same⟩
  refine ⟨⟨Text.joinLines (Text.innerLines body.reverse), Prod.ext ?_ reports⟩,
    nodup_location_docStrings settings uri texts⟩
  simp only [readDocument_eq, same]
  exact Document.Draft.finish_mapDocStrings uri fun docString _ => docString.finish_withBodyAt

/-- A feature line is a line of content if a doc-string is open. -/
theorem feature_line_within_docString :
    DocString.DifferWithin .standard ⟨4, 1⟩
        (["Feature: f", "Scenario: s", "Given x", "```", "text"].map String.toList)
        (["Feature: f", "Scenario: s", "Given x", "```", "Feature: g"].map String.toList) ∧
      (readDocument .standard [] (Line.numberFrom 1
          (["Feature: f", "Scenario: s", "Given x", "```", "Feature: g"].map String.toList))).2 =
        (readDocument .standard [] (Line.numberFrom 1
          (["Feature: f", "Scenario: s", "Given x", "```", "text"].map String.toList))).2 := by
  have differ : DocString.DifferWithin .standard ⟨4, 1⟩
      (["Feature: f", "Scenario: s", "Given x", "```", "text"].map String.toList)
      (["Feature: f", "Scenario: s", "Given x", "```", "Feature: g"].map String.toList) := by
    refine ⟨rfl, fun index text other found foundOther different => ?_⟩
    rcases index with _ | _ | _ | _ | _ | index <;> cases found <;> cases foundOther
    any_goals exact absurd rfl different
    decide +kernel
  rcases readDocument_of_differWithin [] differ with ⟨⟨content, same⟩, -⟩
  exact ⟨differ, by rw [same]⟩

end Gherkin
