import Gherkin.Proofs.Reading.Placement
import Gherkin.Proofs.Writing.Heads

namespace Gherkin

/-!
# What a line bears

Each kind of line puts its own marks into a document: a tag line those of its tags,
a heading or step one at the first character that is not whitespace, a row those of
its cells.  The marks of a line stand in its text where they are said to, and from
left to right.
-/

/-- What the mark names stands on the line, at the location of the mark. -/
def Mark.On (line : Line) (mark : Mark) : Prop :=
  ∃ offset < line.text.length, mark.location = line.locationAt offset ∧
    mark.subject.StandsAt line.text offset

/-- The marks stand on the line, and those of nodes from left to right. -/
structure Line.Bears (line : Line) (marks : List Mark) : Prop where
  placed : ∀ mark ∈ marks, mark.On line
  rising : (Mark.nodeLocations marks).Pairwise (· < ·)

namespace Mark

variable {line : Line} {mark : Mark} {marks : List Mark}

@[simp] theorem nodeLocations_append (marks others : List Mark) :
    nodeLocations (marks ++ others) = nodeLocations marks ++ nodeLocations others := by
  simp [nodeLocations]

theorem nodeLocations_map {α : Type} {mark : α → Mark}
    (nodes : ∀ item, (mark item).subject.isNode = true) (items : List α) :
    nodeLocations (items.map mark) = items.map fun item => (mark item).location := by
  simp [nodeLocations, List.filter_map, Function.comp_def, nodes]

theorem exists_mark_of_mem_nodeLocations {location : Location} (listed : location ∈ nodeLocations marks) :
    ∃ mark ∈ marks, mark.location = location := by
  rcases List.mem_map.mp listed with ⟨mark, among, same⟩
  exact ⟨mark, (List.mem_filter.mp among).1, same⟩

theorem On.line_eq (on : mark.On line) : mark.location.line = line.number := by
  rcases on with ⟨offset, -, same, -⟩
  rw [same, Line.locationAt]

end Mark

namespace Line

variable {dialect : Dialect} {line : Line} {marks : List Mark}

theorem Bears.line_eq (bears : line.Bears marks) {location : Location}
    (listed : location ∈ Mark.nodeLocations marks) : location.line = line.number := by
  rcases Mark.exists_mark_of_mem_nodeLocations listed with ⟨mark, among, rfl⟩
  exact (bears.placed mark among).line_eq

theorem bears_nil (line : Line) : line.Bears [] where
  placed := fun _ listed => absurd listed List.not_mem_nil
  rising := .nil

theorem bears_singleton {mark : Mark} (on : mark.On line) : line.Bears [mark] where
  placed := fun _ listed => List.mem_singleton.mp listed ▸ on
  rising := by
    cases node : mark.subject.isNode <;> simp [Mark.nodeLocations, node]

/-- The frame around cells may stand anywhere on their line. -/
theorem Bears.frame {mark : Mark} (bears : line.Bears marks) (on : mark.On line)
    (frame : mark.subject.isNode = false) : line.Bears (mark :: marks) where
  placed := by
    intro other listed
    rcases List.mem_cons.mp listed with rfl | listed
    · exact on
    · exact bears.placed other listed
  rising := by
    have same : Mark.nodeLocations (mark :: marks) = Mark.nodeLocations marks := by
      simp [Mark.nodeLocations, frame]
    rw [same]
    exact bears.rising

/-! ## Headings, steps and doc-strings -/

/-- From its first character that is not whitespace on, a line reads like its trimmed text. -/
theorem exists_drop_indent (line : Line) :
    ∃ after, Text.isBlank after = true ∧ line.text.drop line.indent = line.trimmed ++ after := by
  rcases Text.exists_trimEnd line.text.trimStart with ⟨after, white, same⟩
  exact ⟨after, white, (Text.drop_length_takeWhile _ _).trans same⟩

theorem indent_lt (solid : line.isBlank = false) : line.indent < line.text.length := by
  by_contra beyond
  have nothing : line.text.trimStart = [] :=
    (Text.drop_length_takeWhile _ _).symm.trans (List.drop_of_length_le (Nat.le_of_not_lt beyond))
  have white : line.isBlank = true := Text.trimStart_eq_nil_iff.mp nothing
  rw [solid] at white
  cases white

theorem bears_location {subject : Subject} (solid : line.isBlank = false)
    (stands : subject.StandsAt line.text line.indent) : line.Bears [⟨subject, line.location⟩] :=
  bears_singleton ⟨line.indent, indent_lt solid, rfl, stands⟩

theorem bears_heading (colon : (dialect.role line).takesColon = true) :
    line.Bears [(Heading.onLine dialect.language line).mark] := by
  have solid : line.isBlank = false := Dialect.isBlank_of_role fun plain => by
    rw [plain] at colon
    cases colon
  rcases Heading.exists_rest_of_takesColon colon with ⟨rest, split, name⟩
  rcases exists_drop_indent line with ⟨after, white, whole⟩
  refine bears_location solid ⟨rest ++ after, ?_, ?_⟩
  · rw [whole, split, List.append_assoc, List.cons_append]
  · exact (Text.trim_append_right white rest).trans name.symm

theorem bears_step {kind : StepKind} (role : dialect.role line = .step kind) :
    line.Bears [⟨.step (line.classify dialect.language).keyword
      (line.textAfter (line.classify dialect.language)), line.location⟩] := by
  have own : (line.classify dialect.language).role = .step kind := role
  have isStep : (line.classify dialect.language).role.isStep = true := by rw [own]; rfl
  have spoken : dialect.role line ≠ .plain := by simp [role]
  have opens := (Classification.mem_candidates_of_role spoken).2
  apply bears_location (Dialect.isBlank_of_role spoken)
  rcases Classification.strip_cases isStep opens with ⟨rest, split, content⟩ | ⟨content, bare⟩
  · rcases exists_drop_indent line with ⟨after, white, whole⟩
    refine .inl ⟨rest ++ after, ?_, ?_⟩
    · rw [whole, trimmed, split, List.append_assoc]
    · exact (Text.trim_append_right white rest).trans content.symm
  · exact .inr ⟨bare, rfl, content⟩

theorem bears_opening {opening : DocString.Opening}
    (opens : DocString.Opening.onLine? dialect.separators line = some opening) :
    line.Bears [⟨.docString opening.separator, opening.location⟩] := by
  have solid : line.isBlank = false := by
    have marked : dialect.isSeparator line = true := Body.Draft.isSeparator_eq_true_iff.mpr ⟨_, opens⟩
    by_contra white
    rw [Dialect.isSeparator_of_isBlank (eq_true_of_ne_false white)] at marked
    cases marked
  rcases Option.map_eq_some_iff.mp opens with ⟨separator, found, rfl⟩
  rcases exists_drop_indent line with ⟨after, -, whole⟩
  refine bears_location solid ?_
  rw [Subject.StandsAt, whole]
  exact (Separators.prefix_of_matching? found).2.trans (List.prefix_append _ _)

/-! ## Tags and cells -/

theorem bears_tags (line : Line) : line.Bears ((Tag.onLine line).map Tag.mark) where
  placed := by
    intro mark listed
    rcases List.mem_map.mp listed with ⟨tag, among, rfl⟩
    rcases List.mem_filterMap.mp among with ⟨piece, cut, named⟩
    simp only at named
    split_ifs at named
    cases named
    rcases Tag.exists_split_of_mem_pieces cut with ⟨before, after, same, size⟩
    rcases Text.exists_trim piece.2 with ⟨blank, behind, white, -, whole⟩
    have there : line.text.drop piece.1 = '@' :: (piece.2 ++ after) := by
      rw [same]
      exact List.drop_left' size
    refine ⟨piece.1, Text.lt_length_of_drop there, rfl, blank, behind ++ after, white, ?_⟩
    rw [there]
    conv_lhs => rw [whole]
    rw [List.append_assoc]
  rising := by
    rw [Mark.nodeLocations_map fun _ => rfl, List.pairwise_map]
    refine (Tag.pairwise_pieces line.text).filterMap _ ?_
    intro first second before tag found other foundNext
    simp only at found foundNext
    split_ifs at found
    split_ifs at foundNext
    cases found
    cases foundNext
    exact locationAt_lt before

theorem bears_cells (line : Line) : line.Bears ((Row.cellsOnLine line).map Cell.mark) where
  placed := by
    intro mark listed
    rcases List.mem_map.mp listed with ⟨cell, among, rfl⟩
    rcases (Row.standing_cellsOnLine line).2 cell among with ⟨place, on⟩
    exact ⟨place, on.lt_length, on.location_eq, on.stands⟩
  rising := by
    rw [Mark.nodeLocations_map fun _ => rfl, List.pairwise_map]
    exact (Row.standing_cellsOnLine line).1

theorem mem_bar_of_role (role : dialect.role line = .tableRow) : '|' ∈ line.text := by
  rcases List.isPrefixOf_iff_prefix.mp (Dialect.bar_isPrefixOf_of_role role) with ⟨rest, same⟩
  rcases Text.exists_trim line.text with ⟨before, after, -, -, whole⟩
  rw [whole, ← trimmed, ← same]
  simp

theorem on_bar (role : dialect.role line = .tableRow) :
    (Mark.mk .table (Row.barLocation line)).On line := by
  rcases Row.exists_drop_barOffset (mem_bar_of_role role) with ⟨body, there, -⟩
  exact ⟨Row.barOffset line, Text.lt_length_of_drop there, rfl, Text.getElem?_of_drop there⟩

theorem on_row (role : dialect.role line = .tableRow) :
    (Mark.mk .row (Row.onLine line).location).On line := by
  cases cells : Row.cellsOnLine line with
  | nil =>
      rcases on_bar role with ⟨offset, within, same, stands⟩
      refine ⟨offset, within, ?_, '|', stands, by decide⟩
      simpa [Row.onLine, cells] using same
  | cons first rest =>
      have listed : first ∈ Row.cellsOnLine line := cells ▸ List.mem_cons_self
      rcases (Row.standing_cellsOnLine line).2 first listed with ⟨place, on⟩
      exact ⟨place, on.lt_length, by simp [Row.onLine, cells, on.location_eq], on.solid⟩

theorem bears_row (role : dialect.role line = .tableRow) : line.Bears (Row.onLine line).marks :=
  (bears_cells line).frame (on_row role) rfl

end Line
end Gherkin
