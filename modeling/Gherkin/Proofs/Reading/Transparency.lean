import Gherkin.Proofs.Reading.Placement

namespace Gherkin

/-!
# Lines that leave no trace

A comment line is kept as a comment and does nothing else.  A blank line does
nothing at all where no description could take it: between tags and what they stand
before, before the feature, and behind the first step of a body or the first row of
examples.  If such lines are left out and the others keep their numbers, the
document loses the comments that were left out and nothing more.  The same faults
are noted, except that the end of the input is now behind the last line that is left.

Whether a line leaves no trace is asked where it stands among all the lines, so that
any number of them can be left out at once.
-/

/-- Whether the steps or rows of the construct that was opened last have begun, so that no
description takes blank lines. -/
def Document.Reader.pastDescription (reader : Reader) : Bool :=
  match reader.phase with
  | .beforeFeature | .header => false
  | .background => reader.background.any fun background => !background.body.steps.isEmpty
  | .scenarios =>
    reader.scenarios.head?.any fun scenario =>
      match scenario.examples with
      | block :: _ => block.table.isSome
      | [] => !scenario.body.steps.isEmpty

/-- The line is a comment, or it is blank and there is no description to which it could belong. -/
def Document.Reader.PassesOver (settings : Settings) (line : Line) (reader : Reader) : Prop :=
  reader.inDocString = false ∧
    ((directive? line = none ∧ (settings.dialect reader.language).role line = .comment) ∨
      (line.isBlank = true ∧
        (reader.pending.isSome = true ∨ reader.header.isNone = true ∨ reader.pastDescription = true)))

instance (settings : Settings) (line : Line) (reader : Document.Reader) :
    Decidable (reader.PassesOver settings line) :=
  inferInstanceAs (Decidable (_ ∧ _))

/-- The document without the comments on the dropped lines. -/
def Document.withoutComments (dropped : Nat → Bool) (document : Document) : Document :=
  { document with comments := document.comments.filter fun comment => !dropped comment.location.line }

/-- The number of the last line, or the given number if there is no line. -/
def Line.lastNumber (before : Nat) (lines : List Line) : Nat :=
  (lines.getLast?.map Line.number).getD before

/-- The fault as it is noted if the input ends with the given line. -/
def Fault.endingAt (last : Nat) (fault : Fault) : Fault :=
  if fault.cause.isEndOfInput then { fault with location := .endOfInput last } else fault

/-! ## Reading a line that is passed over -/

theorem Language.directive?_of_isBlank {text : Text} (white : text.isBlank = true) :
    directive? text = none := by
  simp [directive?, Text.trimStart_eq_nil_iff.mpr white, List.isPrefixOf?]

theorem Body.Draft.add_blank (dialect : Dialect) {line : Line} {body : Body.Draft}
    (begun : body.steps ≠ []) (outside : body.inDocString = false) (white : line.isBlank = true) :
    body.add dialect line = some (body, []) := by
  rcases List.exists_cons_of_ne_nil begun with ⟨step, earlier, steps⟩
  exact add_eq_some_iff.mpr (.blank steps outside white)

/-- Whether the steps or rows of the construct that the rules read on have begun. -/
def Feature.Draft.pastDescription (feature : Draft) : Bool :=
  match feature.scenarios, feature.background with
  | scenario :: _, _ =>
    match scenario.examples with
    | block :: _ => block.table.isSome
    | [] => !scenario.body.steps.isEmpty
  | [], some background => !background.body.steps.isEmpty
  | [], none => false

theorem Feature.Draft.add_blank (dialect : Dialect) {line : Line} {feature : Feature.Draft}
    (past : feature.pastDescription = true) (outside : feature.inDocString = false)
    (white : line.isBlank = true) : feature.add dialect line = .ok (feature, []) := by
  rcases feature with ⟨heading, tags, description, background, scenarios⟩
  cases scenarios with
  | cons scenario earlier =>
      have shut : scenario.inDocString = false := outside
      rcases scenario with ⟨heading, tags, isOutline, body, examples⟩
      cases examples with
      | cons block blocks =>
          have begun : block.table.isSome = true := past
          have role := Dialect.role_of_isBlank dialect white
          simp [add, Scenario.Draft.add, shut, Examples.Draft.add, role, begun, white]
      | nil =>
          have begun : body.steps ≠ [] := by simpa [pastDescription] using past
          simp [add, Scenario.Draft.add, shut, Body.Draft.add_blank dialect begun shut white]
  | nil =>
      cases background with
      | none => cases past
      | some background =>
          have begun : background.body.steps ≠ [] := by simpa [pastDescription] using past
          simp [add, Background.Draft.add, Body.Draft.add_blank dialect begun outside white]

theorem Line.lastNumber_cons (before : Nat) (line : Line) (rest : List Line) :
    lastNumber before (line :: rest) = lastNumber line.number rest := by
  cases last : rest.getLast? <;> simp [lastNumber, List.getLast?_cons, last]

namespace Document.Draft

variable {settings : Settings} {line : Line} {draft : Draft}

theorem pastDescription_reader (draft : Draft) :
    draft.reader.pastDescription = draft.feature.any Feature.Draft.pastDescription := by
  rcases draft with ⟨language, last, comments, pending, _ | ⟨heading, tags, description, background, scenarios⟩⟩
  · rfl
  · cases scenarios with
    | cons scenario earlier =>
        rcases scenario with ⟨heading, tags, isOutline, body, _ | ⟨block, blocks⟩⟩ <;> rfl
    | nil => cases background <;> rfl

/-- The rules take up a blank line where there is no description to which it could belong. -/
theorem add_blank (outside : draft.inDocString = false) (white : line.isBlank = true)
    (idle : draft.pending.isSome = true ∨ draft.feature.isNone = true ∨
      draft.feature.any Feature.Draft.pastDescription = true) :
    draft.add settings line = ({ draft with lastLine := line.number }, []) := by
  have undirected : directive? line = none := by
    unfold directive?
    split_ifs
    · exact Language.directive?_of_isBlank white
    · rfl
  have taken : Takes (settings.dialect draft.language) line { draft with lastLine := line.number }
      { draft with lastLine := line.number } [] := by
    rcases draft with ⟨language, last, comments, pending, feature⟩
    cases feature with
    | none => exact .blank outside white (.inr rfl)
    | some feature =>
        cases pending with
        | some tags => exact .blank outside white (.inl rfl)
        | none =>
            have past : feature.pastDescription = true := by simpa using idle
            have inner := Feature.Draft.add_eq_ok_iff.mp
              (Feature.Draft.add_blank (settings.dialect language) past outside white)
            have routed := Dialect.routed_of_plain (Dialect.role_of_isBlank (settings.dialect language) white)
            exact .inner rfl (.inr ⟨rfl, routed⟩) inner
  simp only [add, undirected, place_eq_ok_iff.mpr taken, Reading.settle]

end Document.Draft

namespace Document.Reader

variable {settings : Settings} {dialect : Dialect} {line : Line} {lines : List Line} {reader : Reader}
  {dropped : Nat → Bool}

theorem read_comment (outside : reader.inDocString = false) (undirected : directive? line = none)
    (role : (settings.dialect reader.language).role line = .comment) :
    reader.read settings line =
      ({ reader with lastLine := line.number, comments := Comment.onLine line :: reader.comments }, []) := by
  have shut : ({ reader with lastLine := line.number } : Reader).inDocString = false := outside
  simp [read, undirected, place, shut, role]

theorem Coherent.read_blank (coherent : reader.Coherent) (outside : reader.inDocString = false)
    (white : line.isBlank = true)
    (idle : reader.pending.isSome = true ∨ reader.header.isNone = true ∨ reader.pastDescription = true) :
    reader.read settings line = ({ reader with lastLine := line.number }, []) := by
  rcases coherent with ⟨draft, rfl⟩
  have absent : draft.reader.header.isNone = draft.feature.isNone := by
    rw [← Option.not_isSome, ← Option.not_isSome, draft.isSome_header_reader]
  rw [draft.pending_reader, absent, draft.pastDescription_reader] at idle
  rw [draft.read_reader, draft.add_blank (draft.inDocString_reader.symm.trans outside) white idle]
  rcases draft with ⟨language, last, comments, pending, _ | feature⟩ <;> rfl

/-! ## Leaving lines out -/

/-- The reader without the comments on the dropped lines. -/
def withoutComments (dropped : Nat → Bool) (reader : Reader) : Reader :=
  { reader with comments := reader.comments.filter fun comment => !dropped comment.location.line }

/-- The reader as if the given line had been the last one. -/
def endingAt (last : Nat) (reader : Reader) : Reader :=
  { reader with lastLine := last }

/-- A dropped line leaves nothing but its number. -/
theorem Coherent.read_of_passesOver (coherent : reader.Coherent) (passed : reader.PassesOver settings line)
    (out : dropped line.number = true) :
    (reader.read settings line).1.withoutComments dropped =
        (reader.withoutComments dropped).endingAt line.number ∧
      (reader.read settings line).2 = [] := by
  rcases passed with ⟨outside, ⟨undirected, role⟩ | ⟨white, idle⟩⟩
  · rw [read_comment outside undirected role]
    simp [withoutComments, endingAt, Comment.onLine, Line.locationAt, out]
  · rw [coherent.read_blank outside white idle]
    exact ⟨rfl, rfl⟩

theorem openFeature_withoutComments (reader : Reader) :
    (reader.withoutComments dropped).openFeature dialect line =
      Prod.map (withoutComments dropped) id (reader.openFeature dialect line) := by
  rcases reader with ⟨language, phase, last, comments, pending, header, description, background, scenarios⟩
  cases phase <;> rfl

theorem openBackground_withoutComments (reader : Reader) :
    (reader.withoutComments dropped).openBackground dialect line =
      Prod.map (withoutComments dropped) id (reader.openBackground dialect line) := by
  rcases reader with ⟨language, phase, last, comments, pending, header, description, background, scenarios⟩
  cases phase <;> rfl

theorem openScenario_withoutComments (reader : Reader) :
    (reader.withoutComments dropped).openScenario dialect line =
      Prod.map (withoutComments dropped) id (reader.openScenario dialect line) := by
  rcases reader with ⟨language, phase, last, comments, pending, header, description, background, scenarios⟩
  cases phase <;> rfl

theorem openExamples_withoutComments (reader : Reader) :
    (reader.withoutComments dropped).openExamples dialect line =
      Prod.map (withoutComments dropped) id (reader.openExamples dialect line) := by
  rcases reader with ⟨language, phase, last, comments, pending, header, description, background, scenarios⟩
  cases phase with
  | beforeFeature | header | background => rfl
  | scenarios => cases scenarios <;> rfl

theorem forward_withoutComments (reader : Reader) :
    (reader.withoutComments dropped).forward dialect line =
      Prod.map (withoutComments dropped) id (reader.forward dialect line) := by
  rcases reader with ⟨language, phase, last, comments, pending, header, description, background, scenarios⟩
  cases phase with
  | beforeFeature => cases white : line.isBlank <;> simp [forward, withoutComments, white]
  | header =>
      cases ended : (dialect.role line).isStep || dialect.isArgument line <;>
        simp [forward, withoutComments, ended]
  | background => cases background <;> rfl
  | scenarios => cases scenarios <;> rfl

theorem dispatch_withoutComments (reader : Reader) :
    (reader.withoutComments dropped).dispatch dialect line =
      Prod.map (withoutComments dropped) id (reader.dispatch dialect line) := by
  rw [dispatch, dispatch]
  cases dialect.role line with
  | feature => exact reader.openFeature_withoutComments
  | background => exact reader.openBackground_withoutComments
  | scenario | scenarioOutline => exact reader.openScenario_withoutComments
  | examples => exact reader.openExamples_withoutComments
  | step | tableRow | comment | tag | plain => exact reader.forward_withoutComments

theorem place_withoutComments (reader : Reader) (stays : dropped line.number = false) :
    (reader.withoutComments dropped).place dialect line =
      Prod.map (withoutComments dropped) id (reader.place dialect line) := by
  have inside : (reader.withoutComments dropped).inDocString = reader.inDocString := rfl
  have pending : (reader.withoutComments dropped).pending = reader.pending := rfl
  simp only [place, inside, pending]
  split_ifs with inside comment tag idle refused
  · exact reader.forward_withoutComments
  · simp [withoutComments, Comment.onLine, Line.locationAt, stays]
  · rfl
  · rfl
  · rfl
  · exact reader.dispatch_withoutComments

/-- A line that stays is read without the dropped comments as it is read with them. -/
theorem read_withoutComments (reader : Reader) (stays : dropped line.number = false) (last : Nat) :
    ((reader.withoutComments dropped).endingAt last).read settings line =
      Prod.map (withoutComments dropped) id (reader.read settings line) := by
  have placed (dialect : Dialect) :=
    @place_withoutComments dialect line dropped { reader with lastLine := line.number } stays
  simp only [read]
  cases directive? line with
  | none => exact placed _
  | some code =>
      simp only [chooseLanguage]
      cases settings.languages.get? code <;> rfl

theorem Coherent.endingAt_read (coherent : reader.Coherent) :
    (reader.read settings line).1.endingAt line.number = (reader.read settings line).1 := by
  rcases coherent with ⟨draft, rfl⟩
  have last : (draft.add settings line).1.lastLine = line.number :=
    (Draft.adds_add settings draft line).lastLine_eq
  rw [draft.read_reader, Prod.map_fst]
  generalize (draft.add settings line).1 = next at last ⊢
  rcases next with ⟨language, number, comments, pending, _ | feature⟩ <;> cases last <;> rfl

theorem Coherent.readAll_filter (coherent : reader.Coherent) (last : Nat)
    (passed : ∀ index line, lines[index]? = some line → dropped line.number = true →
      (reader.readAll settings (lines.take index)).1.PassesOver settings line) :
    ((reader.withoutComments dropped).endingAt last).readAll settings
        (lines.filter fun line => !dropped line.number) =
      (((reader.readAll settings lines).1.withoutComments dropped).endingAt
          (Line.lastNumber last (lines.filter fun line => !dropped line.number)),
        (reader.readAll settings lines).2) := by
  induction lines generalizing reader last with
  | nil => rfl
  | cons line rest inductionHypothesis =>
      have later (number : Nat) := @inductionHypothesis (reader.read settings line).1
        (coherent.read settings line) number fun index => passed (index + 1)
      cases out : dropped line.number with
      | true =>
          have first : reader.PassesOver settings line := passed 0 line rfl out
          have left := coherent.read_of_passesOver first out
          have further := later last
          rw [left.1] at further
          simp only [List.filter_cons, out, Bool.not_true, Bool.false_eq_true, if_false, Reader.readAll, left.2,
            List.nil_append]
          exact further
      | false =>
          have further := later line.number
          have same : ((reader.read settings line).1.withoutComments dropped).endingAt line.number =
              ((reader.read settings line).1.endingAt line.number).withoutComments dropped := rfl
          rw [same, coherent.endingAt_read] at further
          simp only [List.filter_cons, out, Bool.not_false, if_true, Reader.readAll,
            reader.read_withoutComments out, Prod.map_fst, Prod.map_snd, id_eq, further, Line.lastNumber_cons]

theorem endFaults_endingAt (reader : Reader) (last : Nat) :
    (reader.endingAt last).endFaults = reader.endFaults.map (Fault.endingAt last) := by
  have inside : (reader.endingAt last).inDocString = reader.inDocString := rfl
  have expected : (reader.endingAt last).expectedAfterTags = reader.expectedAfterTags := rfl
  have pending : (reader.endingAt last).pending = reader.pending := rfl
  simp only [endFaults, inside, expected, pending, List.map_append]
  split_ifs <;> rfl

theorem finish_withoutComments (uri : Text) (reader : Reader) (last : Nat) :
    ((reader.withoutComments dropped).endingAt last).finish uri =
      (reader.finish uri).withoutComments dropped := by
  simp [finish, endingAt, Document.withoutComments, withoutComments, List.filter_reverse]

end Document.Reader

theorem Fault.map_endingAt_of_going {faults : List Fault} (last : Nat)
    (going : ∀ fault ∈ faults, fault.cause.isEndOfInput = false) : faults.map (endingAt last) = faults := by
  calc
    faults.map (endingAt last) = faults.map id :=
      List.map_congr_left fun fault noted => if_neg (by rw [going fault noted]; decide)
    _ = faults := List.map_id faults

/-- Comments, and blank lines where no description could take them, can be left out if the other
lines keep their numbers.  The document then lacks the comments on the lines that were left out and
is the same otherwise.  The faults are the same too, apart from the place of a missing end, which
is behind the last line that is left. -/
theorem readDocument_filter {settings : Settings} {dropped : Nat → Bool} {lines : List Line} (uri : Text)
    (passed : ∀ index line, lines[index]? = some line → dropped line.number = true →
      ((Document.Reader.empty settings).readAll settings (lines.take index)).1.PassesOver settings line) :
    (readDocument settings uri (lines.filter fun line => !dropped line.number)).1 =
        (readDocument settings uri lines).1.withoutComments dropped ∧
      (readDocument settings uri (lines.filter fun line => !dropped line.number)).2.faults =
        (readDocument settings uri lines).2.faults.map
          (Fault.endingAt (Line.lastNumber 0 (lines.filter fun line => !dropped line.number))) := by
  have read := (Document.Reader.coherent_empty settings).readAll_filter 0 passed
  have start : ((Document.Reader.empty settings).withoutComments dropped).endingAt 0 = .empty settings := rfl
  rw [start] at read
  have going : ∀ fault ∈ ((Document.Reader.empty settings).readAll settings lines).2,
      fault.cause.isEndOfInput = false := by
    rw [Document.Reader.readAll_empty]
    exact fun fault noted => (Document.Draft.liesOn_of_mem_addAll settings _ lines fault noted).1
  have ends : (((Document.Reader.empty settings).readAll settings lines).1.withoutComments
      dropped).endFaults = ((Document.Reader.empty settings).readAll settings lines).1.endFaults := rfl
  constructor
  · simp only [readDocument, read, Document.Reader.finish_withoutComments]
  · simp only [readDocument, read, Report.add, Report.empty, List.nil_append, List.map_append,
      Fault.map_endingAt_of_going _ going, Document.Reader.endFaults_endingAt, ends]

/-- Between tags, behind a step, between rows and at the end of the input, where tags are left over. -/
theorem layout_left_out :
    let lines := Line.numberFrom 1 (["# c", "", "@t", "", "Feature: f", "Scenario: s", "Given x", "", "# d",
      "| a |", "# e", "| b |", "@u", ""].map String.toList)
    let kept := lines.filter fun line => !(List.contains [1, 2, 4, 8, 9, 11, 14] line.number)
    (readDocument .standard [] kept).1 =
        (readDocument .standard [] lines).1.withoutComments (List.contains [1, 2, 4, 8, 9, 11, 14]) ∧
      (readDocument .standard [] kept).2.faults =
        (readDocument .standard [] lines).2.faults.map (Fault.endingAt (Line.lastNumber 0 kept)) := by
  apply readDocument_filter []
  intro index line found
  rcases index with _ | _ | _ | _ | _ | _ | _ | _ | _ | _ | _ | _ | _ | _ | index <;> cases found
  all_goals decide +kernel

end Gherkin
