import Gherkin.Proofs.Reading.Offsets
import Gherkin.Proofs.Reading.Refusal

namespace Gherkin

/-!
# Where faults are

Faults are noted in reading order, and each of them lies on the line for which it
was noted.  Only a tag line can have several, and their columns rise because each
name starts at an at sign of its own.  The end of the input is noted behind all
lines, and at most once: tags never wait while a doc-string is open, since tag
lines are read outside of doc-strings only and a doc-string is opened only when no
tags are pending.
-/

/-- Whether the cause is that the input ends too early. -/
def Cause.isEndOfInput : Cause → Bool
  | .endOfInput _ => true
  | _ => false

/-- The fault belongs to the line: it has the number of the line and the column of one of its
characters or of the place behind them, and if it is a mismatch, then it stands where the text
of the line starts and shows that text. -/
structure Fault.LiesOn (line : Line) (fault : Fault) : Prop where
  line_eq : fault.location.line = line.number
  column_pos : 1 ≤ fault.location.column
  column_le : fault.location.column ≤ line.text.length + 1
  mismatch : ∀ expected found, fault.cause = .mismatch expected found →
    line.isBlank = false ∧ fault.location = line.location ∧ found = line.trimmed

/-- The faults that are noted for one line, in reading order. -/
structure Line.Notes (line : Line) (faults : List Fault) : Prop where
  rising : faults.Pairwise fun first second => first.location < second.location
  placed : ∀ fault ∈ faults, fault.LiesOn line
  going : ∀ fault ∈ faults, fault.cause.isEndOfInput = false

/-! ## The faults of one line -/

namespace Line

variable {line : Line}

theorem locationAt_lt {first second : Nat} (before : first < second) :
    line.locationAt first < line.locationAt second :=
  .inr ⟨rfl, Nat.succ_lt_succ before⟩

theorem notes_nil (line : Line) : line.Notes [] :=
  ⟨.nil, fun _ noted => absurd noted List.not_mem_nil, fun _ noted => absurd noted List.not_mem_nil⟩

theorem liesOn_of_offset {cause : Cause} {offset : Nat} (within : offset ≤ line.text.length)
    (fits : cause.isMismatch = false) : Fault.LiesOn line ⟨cause, line.locationAt offset⟩ where
  line_eq := rfl
  column_pos := Nat.succ_pos offset
  column_le := Nat.succ_le_succ within
  mismatch := by
    intro expected found same
    rw [show cause = .mismatch expected found from same] at fits
    cases fits

theorem notes_of_liesOn {fault : Fault} (placed : fault.LiesOn line)
    (going : fault.cause.isEndOfInput = false) : line.Notes [fault] where
  rising := List.pairwise_singleton _ _
  placed := fun _ noted => List.mem_singleton.mp noted ▸ placed
  going := fun _ noted => List.mem_singleton.mp noted ▸ going

theorem notes_faultsOnLine (line : Line) : line.Notes (Tag.faultsOnLine line) where
  rising := by
    refine (Tag.pairwise_pieces line.text).filterMap _ ?_
    intro first second before fault found other foundNext
    split at found <;> cases found
    split at foundNext <;> cases foundNext
    exact locationAt_lt before
  placed := by
    intro fault noted
    rcases List.mem_filterMap.mp noted with ⟨piece, listed, found⟩
    split at found <;> cases found
    rcases Tag.exists_split_of_mem_pieces listed with ⟨before, after, same, size⟩
    refine liesOn_of_offset ?_ rfl
    rw [same, ← size, List.length_append]
    exact Nat.le_add_right _ _
  going := by
    intro fault noted
    rcases List.mem_filterMap.mp noted with ⟨piece, -, found⟩
    split at found <;> cases found
    rfl

theorem Flawed.notes {dialect : Dialect} {faults : List Fault} (flawed : line.Flawed dialect faults) :
    line.Notes faults := by
  cases flawed with
  | sound => exact line.notes_nil
  | tags role => exact line.notes_faultsOnLine
  | uneven role =>
      rcases Row.exists_offset_onLine line with ⟨offset, within, same⟩
      rw [same]
      exact notes_of_liesOn (liesOn_of_offset within rfl) rfl

theorem liesOn_mismatch (expected : List Text) (solid : line.isBlank = false) :
    Fault.LiesOn line ⟨.mismatch expected line.trimmed, line.location⟩ where
  line_eq := rfl
  column_pos := Nat.succ_pos _
  column_le := Nat.succ_le_succ (List.takeWhile_prefix Text.isSpace).length_le
  mismatch := by
    intro _ _ same
    cases same
    exact ⟨solid, rfl, rfl⟩

theorem getElem?_of_mem_numberFrom {first : Nat} {texts : List Text}
    (listed : line ∈ numberFrom first texts) :
    first ≤ line.number ∧ texts[line.number - first]? = some line.text := by
  induction texts generalizing first with
  | nil => cases listed
  | cons text rest inductionHypothesis =>
      rcases List.mem_cons.mp listed with rfl | listed
      · exact ⟨Nat.le_refl _, by simp⟩
      · rcases inductionHypothesis listed with ⟨later, found⟩
        refine ⟨Nat.le_of_succ_le later, ?_⟩
        have next : line.number - first = (line.number - (first + 1)) + 1 := by omega
        rw [next, List.getElem?_cons_succ, found]

end Line

/-! ## The faults of a run -/

namespace Document.Draft

variable {settings : Settings} {line : Line} {draft next : Draft} {faults : List Fault}

theorem number_of_directive? {code : Text} (named : directive? line = some code) : line.number = 1 := by
  by_contra later
  rw [directive?, if_neg later] at named
  cases named

theorem Adds.notes (adds : Adds settings line draft next faults) : line.Notes faults := by
  cases adds with
  | chosen named known => exact line.notes_nil
  | unknown named missing =>
      have place : (⟨1, 1⟩ : Location) = line.locationAt 0 := by
        rw [Line.locationAt, number_of_directive? named]
      rw [place]
      exact Line.notes_of_liesOn (Line.liesOn_of_offset (Nat.zero_le _) rfl) rfl
  | taken undirected taken => exact taken.flawed.notes
  | refused undirected outside solid =>
      exact Line.notes_of_liesOn (Line.liesOn_mismatch _ solid) rfl

theorem Takes.lastLine_eq {dialect : Dialect} (taken : Takes dialect line draft next faults) :
    next.lastLine = draft.lastLine := by
  cases taken <;> rfl

theorem Adds.lastLine_eq (adds : Adds settings line draft next faults) :
    next.lastLine = line.number := by
  cases adds with
  | taken undirected taken => exact taken.lastLine_eq
  | _ => rfl

/-- Every fault of a run lies on one of the lines, and none of them is that the input ends. -/
theorem liesOn_of_mem_addAll (settings : Settings) (draft : Draft) (lines : List Line) :
    ∀ fault ∈ (draft.addAll settings lines).2,
      fault.cause.isEndOfInput = false ∧ ∃ line ∈ lines, fault.LiesOn line := by
  induction lines generalizing draft with
  | nil => exact fun _ noted => absurd noted List.not_mem_nil
  | cons line rest inductionHypothesis =>
      have own := (adds_add settings draft line).notes
      intro fault noted
      rcases List.mem_append.mp noted with noted | noted
      · exact ⟨own.going fault noted, line, List.mem_cons_self, own.placed fault noted⟩
      · rcases inductionHypothesis _ fault noted with ⟨going, other, listed, placed⟩
        exact ⟨going, other, List.mem_cons_of_mem _ listed, placed⟩

/-- The faults of numbered lines are in reading order, and each lies on one of the lines. -/
theorem notes_addAll (settings : Settings) (draft : Draft) (first : Nat) (texts : List Text) :
    (draft.addAll settings (Line.numberFrom first texts)).2.Pairwise
        (fun fault other => fault.location < other.location) ∧
      ∀ fault ∈ (draft.addAll settings (Line.numberFrom first texts)).2,
        fault.cause.isEndOfInput = false ∧ ∃ line ∈ Line.numberFrom first texts, fault.LiesOn line := by
  refine ⟨?_, liesOn_of_mem_addAll settings draft _⟩
  induction texts generalizing draft first with
  | nil => exact .nil
  | cons text rest inductionHypothesis =>
      simp only [Line.numberFrom, addAll]
      have own := (adds_add settings draft ⟨text, first⟩).notes
      refine List.pairwise_append.mpr ⟨own.rising, inductionHypothesis _ _, ?_⟩
      intro fault noted other notedLater
      rcases (liesOn_of_mem_addAll settings _ _ other notedLater).2 with ⟨line, listed, placed⟩
      have number := (Line.getElem?_of_mem_numberFrom listed).1
      refine .inl ?_
      rw [(own.placed fault noted).line_eq, placed.line_eq]
      exact number

theorem lastLine_addAll (settings : Settings) (draft : Draft) (first : Nat) (texts : List Text)
    (next : draft.lastLine + 1 = first) :
    (draft.addAll settings (Line.numberFrom first texts)).1.lastLine + 1 = first + texts.length := by
  induction texts generalizing draft first with
  | nil => exact next
  | cons text rest inductionHypothesis =>
      have last : (draft.add settings ⟨text, first⟩).1.lastLine = first :=
        (adds_add settings draft ⟨text, first⟩).lastLine_eq
      have reached := inductionHypothesis (draft.add settings ⟨text, first⟩).1 (first + 1)
        (congrArg (· + 1) last)
      simp only [Line.numberFrom, addAll, List.length_cons]
      omega

/-! ## Open doc-strings and pending tags -/

theorem Takes.pending_eq_none {dialect : Dialect} (taken : Takes dialect line draft next faults)
    (free : draft.inDocString = true → draft.pending = none) (inside : next.inDocString = true) :
    next.pending = none := by
  cases taken with
  | comment outside role => exact absurd (outside.symm.trans inside) (by decide)
  | tag outside role => exact absurd (outside.symm.trans inside) (by decide)
  | blank outside white idle => exact absurd (outside.symm.trans inside) (by decide)
  | feature => rfl
  | background => rfl
  | scenario => rfl
  | examples => rfl
  | inner present routed taken =>
      rcases routed with before | ⟨unclaimed, -⟩
      · exact free before
      · exact unclaimed

theorem Adds.pending_eq_none (adds : Adds settings line draft next faults)
    (free : draft.inDocString = true → draft.pending = none) (inside : next.inDocString = true) :
    next.pending = none := by
  cases adds with
  | chosen => exact free inside
  | unknown => exact free inside
  | taken undirected taken => exact taken.pending_eq_none free inside
  | refused => rfl

/-- No tags wait while a doc-string is open, whatever lines were read. -/
theorem pending_eq_none_of_addAll (settings : Settings) (draft : Draft) (lines : List Line)
    (free : draft.inDocString = true → draft.pending = none) :
    (draft.addAll settings lines).1.inDocString = true →
      (draft.addAll settings lines).1.pending = none :=
  addAll_induction (fun _ _ _ _ _ adds free => adds.pending_eq_none free) free

/-- The end of the input is a fault at most once. -/
theorem endFaults_cases (free : draft.inDocString = true → draft.pending = none) :
    (draft.endFaults = [] ∧ draft.inDocString = false ∧ draft.pending.isSome = false) ∨
      ((draft.inDocString = true ∨ draft.pending.isSome = true) ∧
        ∃ expected, draft.endFaults = [⟨.endOfInput expected, .endOfInput draft.lastLine⟩]) := by
  cases inside : draft.inDocString with
  | true => exact .inr ⟨.inl rfl, Expected.docStringEnd, by simp [endFaults, inside, free inside]⟩
  | false =>
      cases pending : draft.pending with
      | none => exact .inl ⟨by simp [endFaults, inside, pending], rfl, rfl⟩
      | some tags =>
          exact .inr ⟨.inr rfl, draft.expectedAfterTags, by simp [endFaults, inside, pending]⟩

end Document.Draft

/-! ## The faults of a rejected document -/

/-- The fault lies on a line of the file. -/
def Fault.PlacedIn (texts : List Text) (fault : Fault) : Prop :=
  1 ≤ fault.location.line ∧ ∃ text, texts[fault.location.line - 1]? = some text ∧
    fault.LiesOn ⟨text, fault.location.line⟩

theorem Fault.LiesOn.placedIn {texts : List Text} {line : Line} {fault : Fault}
    (on : fault.LiesOn line) (listed : line ∈ Line.numberFrom 1 texts) : fault.PlacedIn texts := by
  rcases Line.getElem?_of_mem_numberFrom listed with ⟨positive, found⟩
  rw [PlacedIn, on.line_eq]
  exact ⟨positive, line.text, found, on⟩

/-- What holds of all faults of a file together, where `texts` are the lines of the file and
`final` is the reader behind them. -/
structure Fault.InOrder (texts : List Text) (final : Document.Reader) (faults : List Fault) : Prop where
  rising : faults.Pairwise fun first second => first.location < second.location
  placed : ∀ fault ∈ faults, fault.cause.isEndOfInput = false → fault.PlacedIn texts
  ending : ∀ fault ∈ faults, fault.cause.isEndOfInput = true →
    fault.location = ⟨texts.length + 1, 0⟩ ∧ faults.getLast? = some fault
  once : faults.countP (fun fault => fault.cause.isEndOfInput) ≤ 1
  ended_iff : (∃ fault ∈ faults, fault.cause.isEndOfInput = true) ↔
    final.inDocString = true ∨ final.pending.isSome = true
  apart : ¬ (final.inDocString = true ∧ final.pending.isSome = true)

section

variable {texts : List Text} {draft : Document.Draft} {inner : List Fault}

private theorem inOrder_of_closed
    (rising : inner.Pairwise fun first second => first.location < second.location)
    (placed : ∀ fault ∈ inner, fault.cause.isEndOfInput = false ∧ fault.PlacedIn texts)
    (closed : draft.inDocString = false) (idle : draft.pending.isSome = false) :
    Fault.InOrder texts draft.reader inner where
  rising := rising
  placed := fun fault noted _ => (placed fault noted).2
  ending := fun fault noted missing => absurd ((placed fault noted).1.symm.trans missing) (by decide)
  once := by
    rw [List.countP_eq_zero.mpr fun fault noted => Bool.eq_false_iff.mp (placed fault noted).1]
    exact Nat.zero_le 1
  ended_iff := by
    constructor
    · rintro ⟨fault, noted, missing⟩
      exact absurd ((placed fault noted).1.symm.trans missing) (by decide)
    · simp [closed, idle]
  apart := by simp [closed]

private theorem inOrder_of_ended {expected : List Text}
    (rising : inner.Pairwise fun first second => first.location < second.location)
    (placed : ∀ fault ∈ inner, fault.cause.isEndOfInput = false ∧ fault.PlacedIn texts)
    (ended : draft.inDocString = true ∨ draft.pending.isSome = true)
    (apart : ¬ (draft.inDocString = true ∧ draft.pending.isSome = true)) :
    Fault.InOrder texts draft.reader (inner ++ [⟨.endOfInput expected, .endOfInput texts.length⟩]) where
  rising := by
    refine List.pairwise_append.mpr ⟨rising, List.pairwise_singleton _ _, ?_⟩
    intro fault noted last same
    rcases (placed fault noted).2 with ⟨positive, text, found, -⟩
    rcases List.getElem?_eq_some_iff.mp found with ⟨within, -⟩
    rw [List.mem_singleton.mp same]
    exact .inl (by simp only [Location.endOfInput]; omega)
  placed := by
    intro fault noted going
    rcases List.mem_append.mp noted with noted | last
    · exact (placed fault noted).2
    · rw [List.mem_singleton.mp last] at going
      cases going
  ending := by
    intro fault noted missing
    rcases List.mem_append.mp noted with noted | last
    · exact absurd ((placed fault noted).1.symm.trans missing) (by decide)
    · rw [List.mem_singleton.mp last]
      exact ⟨rfl, List.getLast?_concat⟩
  once := by
    rw [List.countP_append,
      List.countP_eq_zero.mpr fun fault noted => Bool.eq_false_iff.mp (placed fault noted).1]
    exact Nat.le_refl 1
  ended_iff := ⟨fun _ => by simpa using ended, fun _ => ⟨_, List.mem_append_right _ List.mem_cons_self, rfl⟩⟩
  apart := by simpa using apart

end

theorem Report.faults_of_outcome_eq_error {α : Type} {report : Report} {value : α}
    {rejection : Rejection} (rejected : report.outcome value = .error rejection) :
    rejection.faults = report.faults := by
  unfold outcome at rejected
  split at rejected
  · cases rejected
  · cases rejected
    rfl

/-- The faults of a rejected document rise strictly from place to place.  Each lies on a line of
the document, mismatches at the start of the text that they show; only a missing end lies behind
all lines, once and last, exactly if a doc-string is left open or tags are left pending. -/
theorem rejected_faults_inOrder {settings : Settings} {uri : Text} {texts : List Text}
    {rejection : Rejection} (rejected : parseLines settings uri texts = .error rejection) :
    Fault.InOrder texts
      ((Document.Reader.empty settings).readAll settings (Line.numberFrom 1 texts)).1
      rejection.faults := by
  have faults := Report.faults_of_outcome_eq_error rejected
  simp only [readDocument_eq, Report.add, Report.empty, List.nil_append] at faults
  rw [faults, Document.Reader.readAll_empty, Prod.map_fst]
  have free := Document.Draft.pending_eq_none_of_addAll settings (.empty settings)
    (Line.numberFrom 1 texts) fun _ => rfl
  have lastLine : ((Document.Draft.empty settings).addAll settings
      (Line.numberFrom 1 texts)).1.lastLine = texts.length := by
    have last := Document.Draft.lastLine_addAll settings (.empty settings) 1 texts rfl
    omega
  rcases Document.Draft.notes_addAll settings (.empty settings) 1 texts with ⟨rising, noted⟩
  have placed := fun fault among => And.intro (noted fault among).1 <| by
    rcases (noted fault among).2 with ⟨line, listed, on⟩
    exact on.placedIn listed
  rcases Document.Draft.endFaults_cases free with ⟨nothing, closed, idle⟩ | ⟨ended, expected, last⟩
  · rw [nothing, List.append_nil]
    exact inOrder_of_closed rising placed closed idle
  · rw [last, lastLine]
    refine inOrder_of_ended rising placed ended ?_
    rintro ⟨inside, waiting⟩
    rw [free inside] at waiting
    cases waiting

/-- A document with two faulty tags on one line, a step in a place that has none, an uneven row
and a doc-string that is left open. -/
theorem open_docString_faults_inOrder : ∃ rejection,
    parseLines .standard [] (["@a b @c d", "Feature: f", "Given x", "Scenario: s", "Given x",
      "| a |", "| a | b |", "Given y", "```"].map String.toList) = .error rejection ∧
    Fault.InOrder (["@a b @c d", "Feature: f", "Given x", "Scenario: s", "Given x",
        "| a |", "| a | b |", "Given y", "```"].map String.toList)
      ((Document.Reader.empty .standard).readAll .standard
        (Line.numberFrom 1 (["@a b @c d", "Feature: f", "Given x", "Scenario: s", "Given x",
          "| a |", "| a | b |", "Given y", "```"].map String.toList))).1
      rejection.faults := by
  have refused : (parseLines .standard [] (["@a b @c d", "Feature: f", "Given x", "Scenario: s",
      "Given x", "| a |", "| a | b |", "Given y", "```"].map String.toList)).isOk = false := by
    decide +kernel
  generalize rejected : parseLines .standard [] (["@a b @c d", "Feature: f", "Given x",
    "Scenario: s", "Given x", "| a |", "| a | b |", "Given y", "```"].map String.toList) = outcome
    at refused
  cases outcome with
  | error rejection => exact ⟨rejection, rfl, rejected_faults_inOrder rejected⟩
  | ok document => cases refused

end Gherkin
