import Gherkin.Proofs.Reading.Blank
import Gherkin.Proofs.Reading.Run

namespace Gherkin

/-!
# What becomes of a line

A line is a language directive, is taken up, or is refused.  A line that is taken
up can still have something wrong inside it: names of tags, or the number of its
cells.  Only a refused line is a mismatch, and such a line is none of an open
doc-string and is not blank.
-/

/-- What can be wrong inside a line that is taken up. -/
inductive Line.Flawed (dialect : Dialect) (line : Line) : List Fault → Prop
  | sound : Flawed dialect line []
  | tags (role : dialect.role line = .tag) : Flawed dialect line (Tag.faultsOnLine line)
  | uneven (role : dialect.role line = .tableRow) :
      Flawed dialect line [⟨.unevenRow, (Row.onLine line).location⟩]

/-! ## Faults inside a line -/

variable {dialect : Dialect} {line : Line} {faults : List Fault}

theorem Table.Draft.flawed_add (table : Option Table.Draft) (role : dialect.role line = .tableRow) :
    line.Flawed dialect (Table.Draft.add table line).2 := by
  cases table with
  | none => exact .sound
  | some draft =>
      simp only [Table.Draft.add]
      split
      · exact .sound
      · exact .uneven role

theorem Body.Draft.Takes.flawed {body next : Body.Draft}
    (taken : Body.Draft.Takes dialect line body next faults) : line.Flawed dialect faults := by
  cases taken with
  | row steps free role unmarked => exact Table.Draft.flawed_add _ role
  | _ => exact .sound

theorem Examples.Draft.flawed_of_add {block next : Examples.Draft}
    (taken : block.add dialect line = .ok (next, faults)) : line.Flawed dialect faults := by
  simp only [Examples.Draft.add] at taken
  split_ifs at taken with role <;> cases taken
  · exact Table.Draft.flawed_add _ role
  · exact .sound
  · exact .sound

theorem Feature.Draft.Takes.flawed {feature next : Feature.Draft}
    (taken : Feature.Draft.Takes dialect line feature next faults) : line.Flawed dialect faults := by
  cases taken with
  | scenario scenarios inBody taken => exact taken.flawed
  | examples scenarios outside examples taken => exact Examples.Draft.flawed_of_add taken
  | background scenarios present taken => exact taken.flawed
  | description => exact .sound

/-! ## Lines that cannot be refused -/

/-- An open doc-string is that of the last step. -/
theorem Body.Draft.exists_of_inDocString {body : Body.Draft} (inside : body.inDocString = true) :
    ∃ step earlier docString, body.steps = step :: earlier ∧ step.docString = some docString ∧
      docString.isOpen = true := by
  cases steps : body.steps with
  | nil => rw [inDocString_of_steps_nil steps] at inside; cases inside
  | cons step earlier =>
      rw [inDocString_of_steps steps, Step.Draft.inDocString, DocString.inProgress,
        Option.any_eq_true] at inside
      rcases inside with ⟨docString, begun, isOpen⟩
      exact ⟨step, earlier, docString, rfl, begun, isOpen⟩

theorem Body.Draft.exists_takes_of_inDocString {body : Body.Draft} (dialect : Dialect) (line : Line)
    (inside : body.inDocString = true) : ∃ next, Takes dialect line body next [] := by
  rcases exists_of_inDocString inside with ⟨step, earlier, docString, steps, begun, isOpen⟩
  exact ⟨_, .content steps begun isOpen⟩

theorem Feature.Draft.exists_takes_of_inDocString {feature : Feature.Draft} (dialect : Dialect)
    (line : Line) (inside : feature.inDocString = true) :
    ∃ next, Takes dialect line feature next [] := by
  cases scenarios : feature.scenarios with
  | cons scenario earlier =>
      rw [inDocString_of_scenarios scenarios] at inside
      rcases Body.Draft.exists_takes_of_inDocString dialect line inside with ⟨body, taken⟩
      exact ⟨_, .scenario scenarios (.inl inside) taken⟩
  | nil =>
      cases present : feature.background with
      | some background =>
          rw [inDocString_of_background scenarios present] at inside
          rcases Body.Draft.exists_takes_of_inDocString dialect line inside with ⟨body, taken⟩
          exact ⟨_, .background scenarios present taken⟩
      | none => simp [inDocString, scenarios, present] at inside

namespace Document.Draft

variable {draft next : Draft}

theorem Takes.flawed (taken : Takes dialect line draft next faults) : line.Flawed dialect faults := by
  cases taken with
  | tag outside role => exact .tags role
  | inner present routed taken => exact taken.flawed
  | _ => exact .sound

theorem exists_takes_of_inDocString (dialect : Dialect) (line : Line)
    (inside : draft.inDocString = true) : ∃ next, Takes dialect line draft next [] := by
  cases present : draft.feature with
  | none => simp [inDocString, present] at inside
  | some feature =>
      rcases Feature.Draft.exists_takes_of_inDocString dialect line
        ((inDocString_of_feature present).symm.trans inside) with ⟨next, taken⟩
      exact ⟨_, .inner present (.inl inside) taken⟩

theorem exists_takes_of_isBlank (dialect : Dialect) (white : line.isBlank = true) :
    ∃ next, Takes dialect line draft next [] := by
  cases inside : draft.inDocString with
  | true => exact exists_takes_of_inDocString dialect line inside
  | false =>
      cases present : draft.feature with
      | none => exact ⟨draft, .blank inside white (.inr present)⟩
      | some feature =>
          cases pending : draft.pending with
          | some tags => exact ⟨draft, .blank inside white (.inl (by rw [pending]; rfl))⟩
          | none =>
              have outside := (inDocString_of_feature present).symm.trans inside
              rcases Feature.Draft.exists_takes_blank dialect white outside with ⟨next, taken, -⟩
              have routed := Dialect.routed_of_plain (Dialect.role_of_isBlank dialect white)
              exact ⟨_, .inner present (.inr ⟨pending, routed⟩) taken⟩

/-- A line that is refused is none of an open doc-string and is not blank. -/
theorem outside_of_place_eq_error {expected : List Text}
    (refused : draft.place dialect line = .error expected) :
    draft.inDocString = false ∧ line.isBlank = false := by
  have untaken : ¬ ∃ next, Takes dialect line draft next [] := by
    rintro ⟨next, taken⟩
    rw [place_eq_ok_iff.mpr taken] at refused
    cases refused
  exact ⟨Bool.eq_false_iff.mpr fun inside => untaken (exists_takes_of_inDocString dialect line inside),
    Bool.eq_false_iff.mpr fun white => untaken (exists_takes_of_isBlank dialect white)⟩

/-! ## Everything a line can do -/

/-- What a line does to a document, with the faults that are noted for it. -/
inductive Adds (settings : Settings) (line : Line) (draft : Draft) : Draft → List Fault → Prop
  | chosen {code : Text} {language : Language} (named : directive? line = some code)
      (known : settings.languages.get? code = some language) :
      Adds settings line draft { draft with lastLine := line.number, language := language } []
  | unknown {code : Text} (named : directive? line = some code)
      (missing : settings.languages.get? code = none) :
      Adds settings line draft { draft with lastLine := line.number }
        [⟨.unknownLanguage code, ⟨1, 1⟩⟩]
  | taken {next : Draft} {faults : List Fault} (undirected : directive? line = none)
      (taken : Takes (settings.dialect draft.language) line { draft with lastLine := line.number }
        next faults) :
      Adds settings line draft next faults
  | refused {expected : List Text} (undirected : directive? line = none)
      (outside : draft.inDocString = false) (solid : line.isBlank = false) :
      Adds settings line draft { draft with lastLine := line.number, pending := none }
        [⟨.mismatch expected line.trimmed, line.location⟩]

/-- Every line does one of the listed things. -/
theorem adds_add (settings : Settings) (draft : Draft) (line : Line) :
    Adds settings line draft (draft.add settings line).1 (draft.add settings line).2 := by
  cases named : directive? line with
  | some code =>
      cases known : settings.languages.get? code with
      | some language => simpa [add, named, chooseLanguage, known] using Adds.chosen named known
      | none => simpa [add, named, chooseLanguage, known] using Adds.unknown named known
  | none =>
      simp only [add, named]
      cases read : ({ draft with lastLine := line.number } : Draft).place
          (settings.dialect draft.language) line with
      | ok result => exact .taken named (place_eq_ok_iff.mp read)
      | error expected =>
          have free := outside_of_place_eq_error read
          exact .refused named free.1 free.2

/-- What every line keeps is kept by all lines together. -/
theorem addAll_induction {settings : Settings} {property : Draft → Prop} {lines : List Line}
    (step : ∀ line ∈ lines, ∀ {draft next faults}, Adds settings line draft next faults →
      property draft → property next) (holds : property draft) :
    property (draft.addAll settings lines).1 := by
  induction lines generalizing draft with
  | nil => exact holds
  | cons line rest inductionHypothesis =>
      have next := step line List.mem_cons_self (adds_add settings draft line) holds
      exact inductionHypothesis (fun other listed => step other (List.mem_cons_of_mem _ listed)) next

end Document.Draft

end Gherkin
