import Gherkin.Proofs.Grammar.Basic
import Gherkin.Proofs.Reading.Transition

namespace Gherkin

/-!
# Phases of a body

For the question of which documents are accepted, most of the body of a
background or scenario is of no concern: what counts is how far the argument of
its last step is read.  That much is its phase.  The steps between phases are
listed below, and for the standard separators they are exactly the steps of a
body that leave no fault.
-/

namespace Body

/-- How far the body of a background or scenario is read: to its description, or to the
argument of its last step. -/
inductive Phase
  | description
  | bare
  | table (columns : Nat)
  | docString (separator : Text)
  | closed

/-- The separator that closes the open doc-string, if there is one. -/
def Phase.separator? : Phase → Option Text
  | docString separator => some separator
  | _ => none

/-- The steps between the phases of a body. -/
inductive Phase.Step (dialect : Dialect) (line : Line) : Phase → Phase → Prop
  | blank {phase : Phase} (outside : phase.separator? = none) (kind : dialect.kind line = .blank) :
      Step dialect line phase phase
  | text (kind : dialect.kind line = .text) : Step dialect line .description .description
  | step {phase : Phase} (outside : phase.separator? = none) (kind : dialect.kind line = .step) :
      Step dialect line phase .bare
  | header (kind : dialect.kind line = .row) :
      Step dialect line .bare (.table (Row.cellsOnLine line).length)
  | row (kind : dialect.kind line = .row) :
      Step dialect line (.table (Row.cellsOnLine line).length) (.table (Row.cellsOnLine line).length)
  | opening {separator : Text} (kind : dialect.kind line = .separator)
      (found : dialect.separators.matching? line.trimmed = some separator) :
      Step dialect line .bare (.docString separator)
  | content {separator : Text} (kept : line.startsWith separator = false) :
      Step dialect line (.docString separator) (.docString separator)
  | closing {separator : Text} (closed : line.startsWith separator = true) :
      Step dialect line (.docString separator) .closed

/-- Outside doc-strings, the lines of a body are no comments, tags or headings. -/
theorem Phase.Step.routed {dialect : Dialect} {line : Line} {phase next : Phase}
    (step : Phase.Step dialect line phase next) :
    phase.separator?.isSome = true ∨ (dialect.role line ≠ .comment ∧ dialect.role line ≠ .tag ∧
      (dialect.role line).takesColon = false) := by
  cases step with
  | content | closing => exact .inl rfl
  | _ => exact .inr (Dialect.routed_of_kind (by simp_all))

end Body

namespace Step.Draft

/-- The phase of a body of which this is the last step. -/
def phase (step : Draft) : Body.Phase :=
  match step.docString, step.table with
  | some docString, _ =>
    if docString.isOpen then .docString docString.opening.separator else .closed
  | none, some table => .table table.header.cells.length
  | none, none => .bare

theorem phase_of_docString {step : Draft} {docString : DocString.Draft}
    (begun : step.docString = some docString) :
    step.phase =
      if docString.isOpen then .docString docString.opening.separator else .closed := by
  simp only [phase, begun]

theorem phase_of_table {step : Draft} {table : Table.Draft} (free : step.docString = none)
    (begun : step.table = some table) : step.phase = .table table.header.cells.length := by
  simp only [phase, free, begun]

theorem phase_of_bare {step : Draft} (free : step.docString = none) (bare : step.table = none) :
    step.phase = .bare := by
  simp only [phase, free, bare]

@[simp] theorem phase_withDocString (step : Draft) (docString : DocString.Draft) :
    ({ step with docString := some docString } : Draft).phase =
      if docString.isOpen then .docString docString.opening.separator else .closed :=
  rfl

/-- A line of an open doc-string closes it, or leaves it open with the same separator. -/
theorem phase_add {docString : DocString.Draft} (isOpen : docString.isOpen = true) (step : Draft)
    (line : Line) :
    ({ step with docString := some (docString.add line) } : Draft).phase =
      if line.startsWith docString.opening.separator then .closed
      else .docString docString.opening.separator := by
  cases closes : line.startsWith docString.opening.separator <;>
    simp [DocString.Draft.add, isOpen, closes]

theorem phase_withTable {step : Draft} (free : step.docString = none) (table : Table.Draft) :
    ({ step with table := some table } : Draft).phase = .table table.header.cells.length :=
  phase_of_table free rfl

theorem phase_of_onLine? {dialect : Dialect} {line : Line} {start : Draft}
    (starts : onLine? dialect line = some start) : start.phase = .bare := by
  rw [onLine?_of_role (exists_role_of_onLine? starts), Option.some.injEq] at starts
  rw [← starts]
  rfl

theorem of_phase_bare {step : Draft} (phase : step.phase = .bare) :
    step.docString = none ∧ step.table = none := by
  unfold Step.Draft.phase at phase
  split at phase
  · split_ifs at phase
  · cases phase
  · exact ⟨‹_›, ‹_›⟩

theorem of_phase_table {step : Draft} {columns : Nat} (phase : step.phase = .table columns) :
    step.docString = none ∧ ∃ table, step.table = some table ∧ columns = table.header.cells.length := by
  unfold Step.Draft.phase at phase
  split at phase
  · split_ifs at phase
  · cases phase
    exact ⟨‹_›, _, ‹_›, rfl⟩
  · cases phase

theorem of_phase_docString {step : Draft} {separator : Text}
    (phase : step.phase = .docString separator) :
    ∃ docString, step.docString = some docString ∧ docString.isOpen = true ∧
      docString.opening.separator = separator := by
  unfold Step.Draft.phase at phase
  split at phase
  · split_ifs at phase with isOpen
    cases phase
    exact ⟨_, ‹_›, isOpen, rfl⟩
  · cases phase
  · cases phase

theorem inDocString_eq (step : Draft) : step.inDocString = step.phase.separator?.isSome := by
  cases begun : step.docString with
  | some docString =>
      cases isOpen : docString.isOpen <;>
        simp [inDocString, DocString.inProgress, begun, phase_of_docString begun, isOpen,
          Body.Phase.separator?]
  | none =>
      cases table : step.table <;>
        simp [inDocString, DocString.inProgress, begun, phase, table, Body.Phase.separator?]

end Step.Draft

namespace Body.Draft

/-- The phase of a body. -/
def phase (body : Body.Draft) : Phase :=
  match body.steps with
  | [] => .description
  | step :: _ => step.phase

theorem phase_of_steps {body : Body.Draft} {step : Step.Draft} {earlier : Step.Sequence}
    (steps : body.steps = step :: earlier) : body.phase = step.phase := by
  simp only [phase, steps]

theorem phase_cons {description : Description.Draft} {step : Step.Draft} {earlier : Step.Sequence} :
    (⟨description, step :: earlier⟩ : Body.Draft).phase = step.phase :=
  rfl

theorem phase_of_steps_nil {body : Body.Draft} (steps : body.steps = []) :
    body.phase = .description := by
  simp only [phase, steps]

theorem inDocString_eq (body : Body.Draft) : body.inDocString = body.phase.separator?.isSome := by
  cases steps : body.steps with
  | nil => rw [inDocString_of_steps_nil steps, phase_of_steps_nil steps]; rfl
  | cons step earlier =>
      rw [inDocString_of_steps steps, phase_of_steps steps, Step.Draft.inDocString_eq]

theorem outside_iff {body : Body.Draft} : body.inDocString = false ↔ body.phase.separator? = none := by
  rw [inDocString_eq, Option.isSome_eq_false_iff, Option.isNone_iff_eq_none]

variable {dialect : Dialect} {line : Line} {body next : Body.Draft}

private theorem matching?_of_opens {opening : DocString.Opening}
    (opens : DocString.Opening.onLine? dialect.separators line = some opening) :
    dialect.separators.matching? line.trimmed = some opening.separator := by
  rcases Option.map_eq_some_iff.mp opens with ⟨separator, found, rfl⟩
  exact found

/-- A line that is handed on and opens a doc-string is a separator, not a table row. -/
private theorem kind_of_opens (standard : dialect.separators = .standard)
    (silent : (dialect.role line).isStep = false) (routed : dialect.Routed line)
    {opening : DocString.Opening}
    (opens : DocString.Opening.onLine? dialect.separators line = some opening) :
    dialect.role line ≠ .tableRow ∧ dialect.kind line = .separator := by
  have marked : dialect.isSeparator line = true := isSeparator_eq_true_iff.mpr ⟨_, opens⟩
  have unbarred := unbarred_of_opens standard opens
  refine ⟨unbarred, ?_⟩
  rw [Dialect.kind_of_plain (Dialect.plain_of_routed silent unbarred routed), marked, if_pos rfl]

/-- A row that is added without a fault begins a table or has as many cells as its header. -/
private theorem phase_step_row {step : Step.Draft} (free : step.docString = none)
    (role : dialect.role line = .tableRow) (even : (Table.Draft.add step.table line).2 = []) :
    Phase.Step dialect line step.phase
      ({ step with table := some (Table.Draft.add step.table line).1 } : Step.Draft).phase := by
  have kind : dialect.kind line = .row := by simp [Dialect.kind, role]
  cases begun : step.table with
  | none =>
      rw [Step.Draft.phase_of_bare free begun, Step.Draft.phase_withTable free]
      exact .header kind
  | some table =>
      simp only [Table.Draft.add, begun] at even
      split_ifs at even with fits
      rw [Step.Draft.phase_of_table free begun, Step.Draft.phase_withTable free]
      simp only [Table.Draft.add]
      rw [← fits]
      exact .row kind

/-- A line that a body takes up without a fault makes a step of its phase.  Outside
doc-strings the line is one that the document hands on. -/
theorem Takes.phase_step (standard : dialect.separators = .standard)
    (routed : body.inDocString = true ∨ (dialect.role line ≠ .comment ∧ dialect.role line ≠ .tag ∧
      (dialect.role line).takesColon = false))
    (taken : Takes dialect line body next []) :
    Phase.Step dialect line body.phase next.phase := by
  generalize faultless : ([] : List Fault) = faults at taken
  cases taken with
  | @content step earlier docString steps unfinished isOpen =>
      rw [phase_of_steps steps, Step.Draft.phase_of_docString unfinished, isOpen, if_pos rfl,
        phase_cons, Step.Draft.phase_add isOpen]
      split_ifs with closes
      · exact .closing closes
      · exact .content (Bool.eq_false_iff.mpr closes)
  | step outside starts =>
      rw [phase_cons, Step.Draft.phase_of_onLine? starts]
      exact .step (outside_iff.mp outside)
        (by simp [Dialect.kind, Step.Draft.exists_role_of_onLine? starts])
  | row steps free role unmarked =>
      rw [phase_of_steps steps]
      exact phase_step_row free role faultless.symm
  | opening steps free silent admitted opens =>
      have outside : body.inDocString = false :=
        (inDocString_of_steps steps).trans (Step.Draft.inDocString_of_free free)
      rcases kind_of_opens standard silent (routed.resolve_left (by simp [outside])) opens with
        ⟨unbarred, kind⟩
      rw [phase_of_steps steps, phase_cons,
        Step.Draft.phase_of_bare free (admitted.resolve_left unbarred),
        Step.Draft.phase_withDocString]
      exact .opening kind (matching?_of_opens opens)
  | blank steps outside white =>
      exact .blank (outside_iff.mp outside) (Dialect.kind_of_isBlank dialect white)
  | description steps silent free =>
      have outside : body.inDocString = false := inDocString_of_steps_nil steps
      simp only [Dialect.isArgument, Bool.or_eq_false_iff, decide_eq_false_iff_not] at free
      have plain := Dialect.plain_of_routed silent free.1 (routed.resolve_left (by simp [outside]))
      rw [phase_of_steps_nil steps, phase_of_steps_nil (by exact steps)]
      cases white : line.isBlank with
      | true => exact .blank rfl (Dialect.kind_of_isBlank dialect white)
      | false => exact .text (by rw [Dialect.kind_of_plain plain, free.2, white]; rfl)

theorem steps_of_phase_description (phase : body.phase = .description) : body.steps = [] := by
  cases steps : body.steps with
  | nil => rfl
  | cons step earlier =>
      rw [phase_of_steps steps] at phase
      unfold Step.Draft.phase at phase
      split at phase <;> first | cases phase | (split_ifs at phase)

/-- A body with steps is in the phase of its last step. -/
private theorem exists_of_phase {phase : Phase} (same : body.phase = phase)
    (begun : phase ≠ .description) :
    ∃ step earlier, body.steps = step :: earlier ∧ step.phase = phase := by
  cases steps : body.steps with
  | nil => exact absurd (same.symm.trans (phase_of_steps_nil steps)) begun
  | cons step earlier => exact ⟨step, earlier, rfl, (phase_of_steps steps).symm.trans same⟩

/-- Every step of the phase of a body is one that the body can make. -/
theorem exists_takes_of_step {phase : Phase} (standard : dialect.separators = .standard)
    (step : Phase.Step dialect line body.phase phase) :
    ∃ next, Takes dialect line body next [] ∧ next.phase = phase := by
  generalize before : body.phase = phase₀ at step
  cases step with
  | blank outside kind =>
      rcases Dialect.shows_of_kind kind with ⟨plain, unmarked, white⟩
      cases steps : body.steps with
      | nil =>
          refine ⟨_, .description steps (by rw [plain]; rfl) ?_, ?_⟩
          · simp [Dialect.isArgument, plain, unmarked]
          · rw [← before, phase_of_steps_nil steps, phase_of_steps_nil (by exact steps)]
      | cons last earlier =>
          exact ⟨body, .blank steps (outside_iff.mpr (before ▸ outside)) white, before⟩
  | text kind =>
      rcases Dialect.shows_of_kind kind with ⟨plain, unmarked, solid⟩
      have steps := steps_of_phase_description before
      refine ⟨_, .description steps (by rw [plain]; rfl) ?_, phase_of_steps_nil (by exact steps)⟩
      simp [Dialect.isArgument, plain, unmarked]
  | step outside kind =>
      rcases Dialect.shows_of_kind kind with ⟨kind, role⟩
      have starts := Step.Draft.onLine?_of_role role
      exact ⟨_, .step (outside_iff.mpr (before ▸ outside)) starts, Step.Draft.phase_of_onLine? starts⟩
  | header kind =>
      rcases exists_of_phase before (by simp) with ⟨last, earlier, steps, phase⟩
      rcases Step.Draft.of_phase_bare phase with ⟨free, bare⟩
      have role : dialect.role line = .tableRow := Dialect.shows_of_kind kind
      have taken := Takes.row steps free role (Dialect.isSeparator_of_role standard role)
      rw [bare] at taken
      exact ⟨_, taken, Step.Draft.phase_withTable free _⟩
  | row kind =>
      rcases exists_of_phase before (by simp) with ⟨last, earlier, steps, phase⟩
      rcases Step.Draft.of_phase_table phase with ⟨free, table, begun, even⟩
      have role : dialect.role line = .tableRow := Dialect.shows_of_kind kind
      have taken := Takes.row steps free role (Dialect.isSeparator_of_role standard role)
      have fits : (Row.onLine line).cells.length = table.header.cells.length := even
      simp only [begun, Table.Draft.add, if_pos fits] at taken
      refine ⟨_, taken, ?_⟩
      rw [phase_cons, Step.Draft.phase_withTable free, even]
  | opening kind found =>
      rcases exists_of_phase before (by simp) with ⟨last, earlier, steps, phase⟩
      rcases Step.Draft.of_phase_bare phase with ⟨free, bare⟩
      rcases Dialect.shows_of_kind kind with ⟨plain, marked⟩
      rcases isSeparator_eq_true_iff.mp marked with ⟨opening, opens⟩
      refine ⟨_, .opening steps free (by rw [plain]; rfl) (.inr bare) opens, ?_⟩
      rw [matching?_of_opens opens, Option.some.injEq] at found
      rw [phase_cons, Step.Draft.phase_withDocString, if_pos rfl, found]
  | @content separator kept =>
      rcases exists_of_phase before (by simp) with ⟨last, earlier, steps, phase⟩
      rcases Step.Draft.of_phase_docString phase with ⟨docString, begun, isOpen, rfl⟩
      refine ⟨_, .content steps begun isOpen, ?_⟩
      simp [phase_cons, Step.Draft.phase_add isOpen, kept]
  | @closing separator closed =>
      rcases exists_of_phase before (by simp) with ⟨last, earlier, steps, phase⟩
      rcases Step.Draft.of_phase_docString phase with ⟨docString, begun, isOpen, rfl⟩
      refine ⟨_, .content steps begun isOpen, ?_⟩
      simp [phase_cons, Step.Draft.phase_add isOpen, closed]

end Body.Draft

end Gherkin
