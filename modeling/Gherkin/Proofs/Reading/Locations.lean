import Gherkin.Proofs.Reading.Growth

namespace Gherkin

/-!
# Locations of a document

Whatever lines are read, with faults among them or without, the locations in the
document that comes out are those of the source.  Read in document order they never
go back, so a place is named by one node at most, and comments have lines of their
own.  At each location the source shows what the document says to stand there.
-/

/-! ## Reading order -/

/-- The locations of the nodes rise in document order, the comments are on rising lines, and no
comment shares its line with a node. -/
structure InReadingOrder (comments : List Comment) (marks : List Mark) : Prop where
  nodes_rise : (Mark.nodeLocations marks).Pairwise (· < ·)
  comments_rise : comments.Pairwise fun first second => first.location.line < second.location.line
  apart : ∀ comment ∈ comments, ∀ location ∈ Mark.nodeLocations marks,
    comment.location.line ≠ location.line

/-- The comments and the nodes among the marks are on lines before the one with the given number. -/
structure Precede (number : Nat) (comments : List Comment) (marks : List Mark) : Prop where
  nodes_before : ∀ location ∈ Mark.nodeLocations marks, location.line < number
  comments_before : ∀ comment ∈ comments, comment.location.line < number

section

variable {line : Line} {number : Nat} {comments : List Comment} {marks added fewer : List Mark}

theorem Mark.nodeLocations_sublist (kept : fewer <+: marks) :
    (nodeLocations fewer).Sublist (nodeLocations marks) :=
  ((kept.filter _).map _).sublist

theorem InReadingOrder.of_prefix (ordered : InReadingOrder comments marks) (kept : fewer <+: marks) :
    InReadingOrder comments fewer where
  nodes_rise := ordered.nodes_rise.sublist (Mark.nodeLocations_sublist kept)
  comments_rise := ordered.comments_rise
  apart := fun comment noted location listed =>
    ordered.apart comment noted location ((Mark.nodeLocations_sublist kept).subset listed)

theorem Precede.of_prefix (before : Precede number comments marks) (kept : fewer <+: marks) :
    Precede number comments fewer where
  nodes_before := fun location listed =>
    before.nodes_before location ((Mark.nodeLocations_sublist kept).subset listed)
  comments_before := before.comments_before

/-- The marks of a further line come behind everything before it. -/
theorem InReadingOrder.append_marks (ordered : InReadingOrder comments marks)
    (before : Precede line.number comments marks) (bears : line.Bears added) :
    InReadingOrder comments (marks ++ added) where
  nodes_rise := by
    rw [Mark.nodeLocations_append, List.pairwise_append]
    refine ⟨ordered.nodes_rise, bears.rising, ?_⟩
    intro earlier listed later among
    refine .inl ?_
    rw [bears.line_eq among]
    exact before.nodes_before earlier listed
  comments_rise := ordered.comments_rise
  apart := by
    intro comment noted location listed
    rw [Mark.nodeLocations_append] at listed
    rcases List.mem_append.mp listed with listed | among
    · exact ordered.apart comment noted location listed
    · rw [bears.line_eq among]
      exact Nat.ne_of_lt (before.comments_before comment noted)

theorem Precede.append_marks (before : Precede line.number comments marks) (bears : line.Bears added) :
    Precede (line.number + 1) comments (marks ++ added) where
  nodes_before := by
    intro location listed
    rw [Mark.nodeLocations_append] at listed
    rcases List.mem_append.mp listed with listed | among
    · exact Nat.lt_succ_of_lt (before.nodes_before location listed)
    · rw [bears.line_eq among]
      exact Nat.lt_succ_self _
  comments_before := fun comment noted => Nat.lt_succ_of_lt (before.comments_before comment noted)

/-- So does the comment of a further line. -/
theorem InReadingOrder.append_comment (ordered : InReadingOrder comments marks)
    (before : Precede line.number comments marks) :
    InReadingOrder (comments ++ [.onLine line]) marks where
  nodes_rise := ordered.nodes_rise
  comments_rise := by
    refine List.pairwise_append.mpr ⟨ordered.comments_rise, List.pairwise_singleton _ _, ?_⟩
    intro earlier noted later last
    rw [List.mem_singleton.mp last]
    exact before.comments_before earlier noted
  apart := by
    intro comment noted location listed
    rcases List.mem_append.mp noted with noted | last
    · exact ordered.apart comment noted location listed
    · rw [List.mem_singleton.mp last]
      exact Nat.ne_of_gt (before.nodes_before location listed)

theorem Precede.append_comment (before : Precede line.number comments marks) :
    Precede (line.number + 1) (comments ++ [.onLine line]) marks where
  nodes_before := fun location listed => Nat.lt_succ_of_lt (before.nodes_before location listed)
  comments_before := by
    intro comment noted
    rcases List.mem_append.mp noted with noted | last
    · exact Nat.lt_succ_of_lt (before.comments_before comment noted)
    · rw [List.mem_singleton.mp last]
      exact Nat.lt_succ_self _

end

namespace Document.Draft

variable {settings : Settings} {line : Line} {draft next : Draft}

/-- What was read is in reading order and stands before the line with the given number. -/
structure Ordered (number : Nat) (draft : Draft) : Prop where
  inOrder : InReadingOrder draft.comments.reverse draft.marks
  precede : Precede number draft.comments.reverse draft.marks

theorem ordered_empty (settings : Settings) (number : Nat) : (empty settings).Ordered number where
  inOrder := ⟨.nil, .nil, fun _ noted => absurd noted List.not_mem_nil⟩
  precede :=
    ⟨fun _ listed => absurd listed List.not_mem_nil, fun _ noted => absurd noted List.not_mem_nil⟩

theorem Grows.ordered (grows : Grows line draft next) (ordered : draft.Ordered line.number) :
    next.Ordered (line.number + 1) := by
  cases grows with
  | marks kept after bears comments =>
      have inOrder := (ordered.inOrder.of_prefix kept).append_marks (ordered.precede.of_prefix kept) bears
      have precede := (ordered.precede.of_prefix kept).append_marks bears
      rw [← after, ← comments] at inOrder precede
      exact ⟨inOrder, precede⟩
  | comment marks comments =>
      have inOrder := ordered.inOrder.append_comment ordered.precede
      have precede := ordered.precede.append_comment
      rw [← marks, ← List.reverse_cons, ← comments] at inOrder precede
      exact ⟨inOrder, precede⟩

theorem Ordered.addAll {first : Nat} (ordered : draft.Ordered first) (settings : Settings)
    (texts : List Text) :
    (draft.addAll settings (Line.numberFrom first texts)).1.Ordered (first + texts.length) := by
  induction texts generalizing draft first with
  | nil => exact ordered
  | cons text rest inductionHypothesis =>
      have grows := (adds_add settings draft ⟨text, first⟩).grows
      have later := inductionHypothesis (grows.ordered ordered)
      rw [List.length_cons, Nat.add_comm rest.length 1, ← Nat.add_assoc]
      exact later

/-- Tags that are still pending at the end are not part of the document. -/
theorem marks_finish_isPrefix (uri : Text) (draft : Draft) : (draft.finish uri).marks <+: draft.marks := by
  have same : (draft.finish uri).marks = (draft.feature.map Feature.Draft.marks).getD [] := by
    simp only [finish, Document.marks, Option.map_map, Function.comp_def, Feature.Draft.marks_finish]
  rw [same]
  exact List.prefix_append _ _

end Document.Draft

/-- In the document read from any lines, in document order, the locations of the nodes rise, the
comments are on rising lines, and no comment shares its line with a node. -/
theorem readDocument_inReadingOrder (settings : Settings) (uri : Text) (texts : List Text) :
    InReadingOrder (readDocument settings uri (Line.numberFrom 1 texts)).1.comments
      (readDocument settings uri (Line.numberFrom 1 texts)).1.marks := by
  have ordered := (Document.Draft.ordered_empty settings 1).addAll settings texts
  rw [readDocument_eq]
  exact ordered.inOrder.of_prefix (Document.Draft.marks_finish_isPrefix uri _)

/-- A row that follows a refused line still goes to the table of the step. -/
example : Mark.nodeLocations (readDocument .standard [] (Line.numberFrom 1 (["@a @b", "Feature: f",
    "Background:", "* x", "| a |  |", "Examples:", "# c", "|\\n|"].map String.toList))).1.marks =
      [⟨1, 1⟩, ⟨1, 4⟩, ⟨2, 1⟩, ⟨3, 1⟩, ⟨4, 1⟩, ⟨5, 3⟩, ⟨5, 8⟩, ⟨8, 2⟩] := by
  decide +kernel

/-! ## What stands at the locations -/

/-- The mark is at a character of the source from which on its subject can be read. -/
structure Mark.PointsInto (texts : List Text) (mark : Mark) : Prop where
  line_pos : 1 ≤ mark.location.line
  column_pos : 1 ≤ mark.location.column
  shown : ∃ text, texts[mark.location.line - 1]? = some text ∧ mark.location.column ≤ text.length ∧
    mark.subject.StandsAt text (mark.location.column - 1)

/-- The comment is at the first column of a line of the source and has the text of this line, apart
from a carriage return that ends it. -/
structure Comment.PointsInto (texts : List Text) (comment : Comment) : Prop where
  line_pos : 1 ≤ comment.location.line
  column_eq : comment.location.column = 1
  shown : ∃ text, texts[comment.location.line - 1]? = some text ∧
    (text = comment.text ++ ['\r'] ∨ (text = comment.text ∧ text.getLast? ≠ some '\r'))

theorem Mark.On.pointsInto {texts : List Text} {line : Line} {mark : Mark} (on : mark.On line)
    (listed : line ∈ Line.numberFrom 1 texts) : mark.PointsInto texts := by
  rcases Line.getElem?_of_mem_numberFrom listed with ⟨positive, found⟩
  rcases on with ⟨offset, within, same, stands⟩
  rcases mark with ⟨subject, location⟩
  subst same
  exact ⟨positive, Nat.succ_pos offset, line.text, found, within, stands⟩

theorem Comment.pointsInto_onLine {texts : List Text} {line : Line}
    (listed : line ∈ Line.numberFrom 1 texts) : (Comment.onLine line).PointsInto texts := by
  rcases Line.getElem?_of_mem_numberFrom listed with ⟨positive, found⟩
  refine ⟨positive, rfl, line.text, found, ?_⟩
  cases returned : ['\r'].isSuffixOf? line.text with
  | some text =>
      have same := List.isSuffixOf?_eq_some_iff_append_eq.mp returned
      exact .inl (by rw [Comment.onLine, returned, Option.getD_some, same])
  | none =>
      refine .inr ⟨by rw [Comment.onLine, returned, Option.getD_none], fun last => ?_⟩
      rcases List.getLast?_eq_some_iff.mp last with ⟨text, same⟩
      rw [List.isSuffixOf?_eq_some_iff_append_eq.mpr same.symm] at returned
      cases returned

/-- All comments and marks point at what the source shows. -/
structure PointInto (texts : List Text) (comments : List Comment) (marks : List Mark) : Prop where
  marks_into : ∀ mark ∈ marks, mark.PointsInto texts
  comments_into : ∀ comment ∈ comments, comment.PointsInto texts

theorem Document.Draft.Grows.pointInto {texts : List Text} {line : Line} {draft next : Document.Draft}
    (grows : Grows line draft next) (listed : line ∈ Line.numberFrom 1 texts)
    (points : PointInto texts draft.comments draft.marks) : PointInto texts next.comments next.marks := by
  cases grows with
  | marks kept after bears comments =>
      rw [comments, after]
      refine ⟨fun mark among => ?_, points.comments_into⟩
      rcases List.mem_append.mp among with earlier | own
      · exact points.marks_into mark (kept.subset earlier)
      · exact (bears.placed mark own).pointsInto listed
  | comment marks comments =>
      rw [comments, marks]
      refine ⟨points.marks_into, ?_⟩
      exact List.forall_mem_cons.mpr ⟨Comment.pointsInto_onLine listed, points.comments_into⟩

/-- In the document read from any lines, every location is that of a character of the source, and
what the document says to stand there can be read from this character on. -/
theorem readDocument_pointInto (settings : Settings) (uri : Text) (texts : List Text) :
    PointInto texts (readDocument settings uri (Line.numberFrom 1 texts)).1.comments
      (readDocument settings uri (Line.numberFrom 1 texts)).1.marks := by
  have start : PointInto texts (Document.Draft.empty settings).comments
      (Document.Draft.empty settings).marks :=
    ⟨fun _ among => absurd among List.not_mem_nil, fun _ noted => absurd noted List.not_mem_nil⟩
  have step : ∀ line ∈ Line.numberFrom 1 texts, ∀ {draft next faults},
      Document.Draft.Adds settings line draft next faults →
        PointInto texts draft.comments draft.marks → PointInto texts next.comments next.marks :=
    fun line listed _ _ _ adds points => adds.grows.pointInto listed points
  have points := Document.Draft.addAll_induction step start
  rw [readDocument_eq]
  constructor
  · intro mark among
    exact points.marks_into mark ((Document.Draft.marks_finish_isPrefix uri _).subset among)
  · exact fun comment noted => points.comments_into comment (List.mem_reverse.mp noted)

end Gherkin
