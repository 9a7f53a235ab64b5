import Gherkin.Parse
import Mathlib.Tactic.SplitIfs

namespace Gherkin

/-!
# What a mismatch leaves behind

A mismatch is often found out late.  By then tags may have been claimed, the line may
have been tried as the first line of a step, and the last step may have been asked
whether it takes the line.  Every reader gives back what it has become, whether it took
the line or refused it, so none of this is undone by itself.

The statements below go through the places where a line can be refused, from the steps
up to the document.  In each of them the reader is what it was before, except that
pending tags are gone and that the number of the line is noted.  This holds of every
reader, and so of those to which reading any lines can lead.
-/

/-- Whether the cause is that a line fits nowhere. -/
def Cause.isMismatch : Cause → Bool
  | .mismatch _ _ => true
  | _ => false

/-- The faults are inside a line that was taken, and none is that the line fits nowhere. -/
def Fault.Within (faults : List Fault) : Prop :=
  ∀ fault ∈ faults, fault.cause.isMismatch = false

/-- The line was taken, or the only fault is that it fits nowhere and `left` is all that is
left of the reader. -/
inductive Line.Atomic {σ : Type} (line : Line) (left : σ) : σ × List Fault → Prop
  | taken {next : σ} {faults : List Fault} (within : Fault.Within faults) :
      Atomic line left (next, faults)
  | refused (expected : List Text) : Atomic line left (left, [line.mismatch expected])

variable {dialect : Dialect} {line : Line}

theorem Fault.within_nil : Within [] :=
  fun _ noted => absurd noted List.not_mem_nil

theorem Fault.within_singleton {fault : Fault} (fits : fault.cause.isMismatch = false) :
    Within [fault] := by
  intro other noted
  rw [List.mem_singleton.mp noted, fits]

theorem Line.Atomic.of_faults_eq_nil {σ : Type} {left next : σ} : line.Atomic left (next, []) :=
  .taken Fault.within_nil

/-- A construct that holds the reader leaves what the reader leaves. -/
theorem Line.Atomic.map {σ τ : Type} {left : σ} {result : σ × List Fault} (enclose : σ → τ)
    (atomic : line.Atomic left result) : line.Atomic (enclose left) (enclose result.1, result.2) := by
  cases atomic with
  | taken within => exact .taken within
  | refused expected => exact .refused expected

theorem Line.Atomic.eq_of_mismatch {σ : Type} {left : σ} {result : σ × List Fault} {fault : Fault}
    (atomic : line.Atomic left result) (noted : fault ∈ result.2)
    (mismatch : fault.cause.isMismatch = true) : result = (left, [fault]) := by
  cases atomic with
  | taken within =>
      rw [within fault noted] at mismatch
      cases mismatch
  | refused expected => rw [List.mem_singleton.mp noted]

/-! ## Steps -/

theorem Tag.within_faultsOnLine (line : Line) : Fault.Within (Tag.faultsOnLine line) := by
  intro fault noted
  rcases List.mem_filterMap.mp noted with ⟨piece, -, found⟩
  split at found <;> cases found
  rfl

theorem Table.Draft.within_add (table : Option Table.Draft) (line : Line) :
    Fault.Within (Table.Draft.add table line).2 := by
  cases table with
  | none => exact Fault.within_nil
  | some draft =>
      simp only [Table.Draft.add]
      split
      · exact Fault.within_nil
      · exact Fault.within_singleton rfl

theorem Step.Draft.within_add (dialect : Dialect) (step : Step.Draft) (line : Line) :
    Fault.Within (step.add dialect line).2 := by
  rw [Step.Draft.add]
  split
  · exact Fault.within_nil
  · exact Table.Draft.within_add step.table line

namespace Step.Sequence

variable {steps : Sequence}

/-- A line that starts no step leaves the steps as they are. -/
theorem start_eq_of_other (other : (steps.start dialect line).2 = false) :
    steps.start dialect line = (steps, false) := by
  rw [start] at other ⊢
  cases starts : Draft.onLine? dialect line with
  | some step => simp [starts] at other
  | none => rfl

/-- A line that the last step does not take leaves the steps as they are. -/
theorem offer_eq_of_untaken (untaken : (steps.offer dialect line).1.2 = false) :
    steps.offer dialect line = ((steps, false), []) := by
  cases steps with
  | nil => simpa [offer] using untaken
  | cons step earlier =>
      cases accepted : step.accepts dialect line with
      | true => simp [offer, accepted] at untaken
      | false => simpa [offer, accepted] using untaken

theorem within_offer (dialect : Dialect) (steps : Sequence) (line : Line) :
    Fault.Within (steps.offer dialect line).2 := by
  cases steps with
  | nil => exact Fault.within_nil
  | cons step earlier =>
      simp only [offer]
      split
      · exact step.within_add dialect line
      · exact Fault.within_nil

end Step.Sequence

/-! ## Bodies, backgrounds, examples and scenarios -/

/-- Both attempts leave the steps as they are if the line is neither the first line of a step
nor taken by the last one. -/
theorem Body.Draft.atomic_read (begun : Bool) (expected : List Text) (body : Body.Draft) :
    line.Atomic (body, false) (body.read dialect begun expected line) := by
  simp only [read]
  cases starts : (body.steps.start dialect line).2 with
  | true => exact .of_faults_eq_nil
  | false =>
      simp only [Step.Sequence.start_eq_of_other starts, Bool.false_eq_true, if_false]
      split_ifs with behind taken argument
      · exact .taken (Step.Sequence.within_offer dialect body.steps line)
      · rw [Step.Sequence.offer_eq_of_untaken (Bool.eq_false_iff.mpr taken)]
        exact .refused expected
      · exact .refused expected
      · exact .of_faults_eq_nil

/-- An open doc-string takes every line. -/
theorem Background.Reader.within_read {reader : Background.Reader} (inside : reader.inDocString = true) :
    Fault.Within (reader.read dialect line).2 := by
  rw [read, if_pos inside]
  exact Step.Sequence.within_offer dialect reader.body.steps line

theorem Background.Reader.atomic_read (reader : Background.Reader) :
    line.Atomic reader (reader.read dialect line) := by
  cases inside : reader.inDocString with
  | true => exact .taken (within_read inside)
  | false =>
      rw [read, if_neg (Bool.eq_false_iff.mp inside)]
      exact (Body.Draft.atomic_read _ _ reader.body).map fun read =>
        let reader := { reader with body := read.1 }
        if read.2 then { reader with phase := .steps } else reader

theorem Examples.Reader.atomic_read (reader : Examples.Reader) :
    line.Atomic reader (reader.read dialect line) := by
  rcases reader with ⟨phase, heading, tags, description, table⟩
  simp only [read]
  split
  · exact .taken (Table.Draft.within_add table line)
  · cases phase with
    | table =>
        simp only
        split
        · exact .of_faults_eq_nil
        · exact .refused Expected.inExamples
    | description =>
        simp only
        split
        · exact .refused Expected.inExamples
        · exact .of_faults_eq_nil

namespace Scenario.Reader

theorem atomic_openExamples (reader : Scenario.Reader) (tags : List Tag) :
    line.Atomic reader (reader.openExamples dialect tags line) := by
  rw [openExamples]
  split_ifs
  · exact .of_faults_eq_nil
  · exact .refused reader.expected

theorem within_read {reader : Scenario.Reader} (inside : reader.inDocString = true) :
    Fault.Within (reader.read dialect line).2 := by
  rw [read, if_pos inside]
  exact Step.Sequence.within_offer dialect reader.body.steps line

theorem atomic_read (reader : Scenario.Reader) : line.Atomic reader (reader.read dialect line) := by
  cases inside : reader.inDocString with
  | true => exact .taken (within_read inside)
  | false =>
      rw [read, if_neg (Bool.eq_false_iff.mp inside)]
      rcases reader with ⟨phase, heading, tags, isOutline, body, examples⟩
      cases examples with
      | cons block earlier =>
          exact block.atomic_read.map fun block =>
            Scenario.Reader.mk phase heading tags isOutline body (block :: earlier)
      | nil =>
          exact (Body.Draft.atomic_read _ _ body).map fun read =>
            let reader := Scenario.Reader.mk phase heading tags isOutline read.1 []
            if read.2 then { reader with phase := .steps } else reader

end Scenario.Reader

/-! ## Documents -/

namespace Document.Reader

/-- A refused feature line has claimed the pending tags. -/
theorem atomic_openFeature (reader : Reader) :
    line.Atomic reader.takeTags.2 (reader.openFeature dialect line) := by
  simp only [openFeature]
  split_ifs
  · exact .of_faults_eq_nil
  · exact .refused reader.expected

theorem atomic_openBackground (reader : Reader) :
    line.Atomic reader (reader.openBackground dialect line) := by
  rw [openBackground]
  split_ifs
  · exact .of_faults_eq_nil
  · exact .refused reader.expected

/-- A scenario line before the feature has claimed the pending tags. -/
theorem atomic_openScenario (reader : Reader) :
    line.Atomic reader.takeTags.2 (reader.openScenario dialect line) := by
  simp only [openScenario]
  split_ifs
  · exact .refused reader.expected
  · exact .of_faults_eq_nil

/-- A refused examples line has claimed the pending tags, whether it is refused for want of a
scenario or by the scenario. -/
theorem atomic_openExamples (reader : Reader) :
    line.Atomic reader.takeTags.2 (reader.openExamples dialect line) := by
  rcases reader with ⟨language, phase, last, comments, pending, header, description, background, scenarios⟩
  simp only [openExamples]
  split_ifs
  · cases scenarios with
    | nil => exact .of_faults_eq_nil
    | cons scenario earlier =>
        exact (scenario.atomic_openExamples pending.tags).map fun scenario =>
          Reader.mk language phase last comments none header description background (scenario :: earlier)
  · exact .refused _

/-- The line is refused before the feature, in its header, or by the construct that was opened
last. -/
theorem atomic_forward (reader : Reader) : line.Atomic reader (reader.forward dialect line) := by
  rcases reader with ⟨language, phase, last, comments, pending, header, description, background, scenarios⟩
  cases phase with
  | beforeFeature =>
      simp only [forward]
      split_ifs
      · exact .of_faults_eq_nil
      · exact .refused Expected.beforeFeature
  | header =>
      simp only [forward]
      split_ifs
      · exact .refused Expected.inFeatureHeader
      · exact .of_faults_eq_nil
  | background =>
      cases background with
      | none => exact .of_faults_eq_nil
      | some background =>
          exact background.atomic_read.map fun background =>
            Reader.mk language .background last comments pending header description (some background)
              scenarios
  | scenarios =>
      cases scenarios with
      | nil => exact .of_faults_eq_nil
      | cons scenario earlier =>
          exact scenario.atomic_read.map fun scenario =>
            Reader.mk language .scenarios last comments pending header description background
              (scenario :: earlier)

theorem within_forward {reader : Reader} (inside : reader.inDocString = true) :
    Fault.Within (reader.forward dialect line).2 := by
  rcases reader with ⟨language, phase, last, comments, pending, header, description, background, scenarios⟩
  cases phase with
  | beforeFeature | header => cases inside
  | background =>
      cases background with
      | none => cases inside
      | some background => exact Background.Reader.within_read inside
  | scenarios =>
      cases scenarios with
      | nil => cases inside
      | cons scenario earlier => exact Scenario.Reader.within_read inside

theorem takeTags_of_unclaimed {reader : Reader} (unclaimed : reader.pending = none) :
    reader.takeTags.2 = reader := by
  rw [takeTags, ← unclaimed]

/-- Where no tags are claimed, none are pending. -/
theorem atomic_dispatch {reader : Reader}
    (admitted : reader.pending = none ∨ (dialect.role line).takesTags = true) :
    line.Atomic reader.takeTags.2 (reader.dispatch dialect line) := by
  rw [dispatch]
  cases role : dialect.role line with
  | feature => exact reader.atomic_openFeature
  | scenario => exact reader.atomic_openScenario
  | scenarioOutline => exact reader.atomic_openScenario
  | examples => exact reader.atomic_openExamples
  | background =>
      rw [takeTags_of_unclaimed (admitted.resolve_right (by simp [role, Role.takesTags]))]
      exact reader.atomic_openBackground
  | step | tableRow | comment | tag | plain =>
      rw [takeTags_of_unclaimed (admitted.resolve_right (by simp [role, Role.takesTags]))]
      exact reader.atomic_forward

theorem atomic_place (reader : Reader) : line.Atomic reader.takeTags.2 (reader.place dialect line) := by
  simp only [place]
  split_ifs with inside comment tag idle refused
  · exact .taken (within_forward inside)
  · exact .of_faults_eq_nil
  · exact .taken (Tag.within_faultsOnLine line)
  · exact .of_faults_eq_nil
  · exact .refused reader.expectedAfterTags
  · refine atomic_dispatch ?_
    cases pending : reader.pending with
    | none => exact .inl rfl
    | some tags => exact .inr (by simpa [pending] using refused)

theorem atomic_chooseLanguage (settings : Settings) (reader left : Reader) (code : Text) :
    line.Atomic left (reader.chooseLanguage settings code) := by
  rw [chooseLanguage]
  split
  · exact .of_faults_eq_nil
  · exact .taken (Fault.within_singleton rfl)

theorem atomic_read (settings : Settings) (reader : Reader) (line : Line) :
    line.Atomic { reader with lastLine := line.number, pending := none } (reader.read settings line) := by
  simp only [read]
  split
  · exact atomic_chooseLanguage settings _ _ _
  · exact atomic_place { reader with lastLine := line.number }

/-- A mismatch is the only fault of its line, and the line leaves nothing else behind: all
readers are what they were before, with how far each of them is and with everything that they
have read, apart from the number of the last line and the pending tags, which are gone. -/
theorem mismatch_leaves_reader {settings : Settings} {reader : Reader} {fault : Fault}
    (noted : fault ∈ (reader.read settings line).2) (mismatch : fault.cause.isMismatch = true) :
    reader.read settings line =
      ({ reader with lastLine := line.number, pending := none }, [fault]) :=
  (reader.atomic_read settings line).eq_of_mismatch noted mismatch

/-- An examples line claims the tags in front of it before the scenario, which is no outline,
refuses it. -/
theorem tagged_examples_leave_reader :
    let reader := ((Reader.empty .standard).readAll .standard (Line.numberFrom 1 (["Feature: f",
      "Scenario: s", "Given x", "| a |", "@t"].map String.toList))).1
    reader.read .standard ⟨"Examples: e".toList, 6⟩ =
      ({ reader with lastLine := 6, pending := none },
        [⟨.mismatch Expected.inSteps "Examples: e".toList, ⟨6, 1⟩⟩]) :=
  mismatch_leaves_reader (by decide +kernel) rfl

end Document.Reader

end Gherkin
