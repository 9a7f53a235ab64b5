import Gherkin.Proofs.Reading.Transition

namespace Gherkin

/-!
# The argument of a step

A step reads the lines that it accepts.  Accepting a line and finding its place in the
argument are two decisions.  The first asks whether the line is a table row before it asks
for a separator, and the second asks for a separator only.  A row that starts with a
separator is therefore accepted as a row and read as the opening of a doc-string, even
where a table was begun; of the two arguments the step then keeps the table.

Apart from such rows the decisions agree: the lines are all rows of one table or all lines
of one doc-string, and nothing of them is lost.  Separators that do not start with a bar,
such as the standard ones, leave no room for the exception.
-/

/-- The rows of a step's table, with the header, if it has a table. -/
def Step.rows (step : Step) : List Row :=
  (step.table?.map Table.allRows).getD []

/-- What lines give as the argument of a step if none of them is lost: nothing without any
line, a table with all of them as its rows, or a doc-string that read all of them. -/
inductive Argument.ReadFrom (separators : Separators) : List Line → Option Argument → Prop
  | nothing : ReadFrom separators [] none
  | table {lines : List Line} {table : Table} (rows : table.allRows = lines.map Row.onLine) :
      ReadFrom separators lines (some (.table table))
  | docString {lines : List Line} {docString : DocString.Draft}
      (read : lines.foldl (DocString.Draft.extend separators) none = some docString) :
      ReadFrom separators lines (some (.docString docString.finish))

namespace Step.Draft

/-- Lines that a step reads one after the other, each of which it accepts. -/
inductive Reads (dialect : Dialect) : Draft → List Line → Draft → Prop
  | nil (step : Draft) : Reads dialect step [] step
  | cons {step final : Draft} {line : Line} {rest : List Line}
      (accepted : step.accepts dialect line = true)
      (later : Reads dialect (step.add dialect line).1 rest final) :
      Reads dialect step (line :: rest) final

/-- The lines that are read while no doc-string is open. -/
def outside (dialect : Dialect) (step : Draft) : List Line → List Line
  | [] => []
  | line :: rest =>
    let later := (step.add dialect line).1.outside dialect rest
    if step.inDocString then later else line :: later

/-- The step ends with everything that was read into it: with one kind of argument only, with
the rows that were accepted outside of a doc-string as its rows, in order, and with the
argument that was begun, in which every line is found again. -/
structure Keeps (dialect : Dialect) (start : Draft) (lines : List Line) (final : Draft) : Prop where
  single : final.table = none ∨ final.docString = none
  rows : final.finish.rows =
    ((start.outside dialect lines).filter fun line => dialect.role line = .tableRow).map Row.onLine
  table : ∀ table ∈ final.table, final.finish.argument = some (.table table.finish)
  docString : ∀ docString ∈ final.docString,
    final.finish.argument = some (.docString docString.finish)
  lines : Argument.ReadFrom dialect.separators lines final.finish.argument

variable {dialect : Dialect} {line : Line} {step next start final : Draft} {lines : List Line}

/-! ## What an accepted line does -/

/-- What a line that is accepted does in a step. -/
inductive Continues (dialect : Dialect) (line : Line) (step : Draft) : Draft → Prop
  | content {docString : DocString.Draft} (unfinished : step.docString = some docString)
      (isOpen : docString.isOpen = true) :
      Continues dialect line step { step with docString := some (docString.add line) }
  | row (free : step.docString = none) (role : dialect.role line = .tableRow)
      (unmarked : dialect.isSeparator line = false) :
      Continues dialect line step
        { step with table := some (Table.Draft.add step.table line).1 }
  | opening {opening : DocString.Opening} (free : step.docString = none)
      (admitted : dialect.role line = .tableRow ∨ step.table = none)
      (opens : DocString.Opening.onLine? dialect.separators line = some opening) :
      Continues dialect line step { step with docString := some ⟨opening, [], true⟩ }

theorem continues_of_accepts (accepted : step.accepts dialect line = true) :
    Continues dialect line step (step.add dialect line).1 := by
  cases begun : step.docString with
  | some docString =>
      have isOpen : docString.isOpen = true := by rwa [accepts, begun] at accepted
      have content : (step.add dialect line).1 =
          { step with docString := some (docString.add line) } := by
        simp only [add, inDocString_of_open begun isOpen, Bool.true_or, if_true, begun,
          DocString.Draft.extend]
      rw [content]
      exact .content begun isOpen
  | none =>
      have outside : step.inDocString = false := inDocString_of_free begun
      simp only [accepts, begun, Bool.or_eq_true, Bool.and_eq_true, decide_eq_true_eq,
        Option.isNone_iff_eq_none] at accepted
      cases marked : dialect.isSeparator line with
      | true =>
          rcases Body.Draft.isSeparator_eq_true_iff.mp marked with ⟨opening, opens⟩
          simp only [add, outside, marked, Bool.or_true, if_true, begun,
            Body.Draft.extend_none opens]
          exact .opening begun (accepted.imp_right And.left) opens
      | false =>
          have role : dialect.role line = .tableRow := accepted.resolve_right (by simp [marked])
          simp only [add, outside, marked, Bool.or_false, Bool.false_eq_true, if_false]
          exact .row begun role marked

/-! ## Rows -/

theorem rows_finish (step : Draft) :
    step.finish.rows = (step.table.map fun table => table.finish.allRows).getD [] := by
  cases begun : step.table with
  | some table => simp [rows, table?, finish, argument, begun]
  | none =>
      cases docString : step.docString <;> simp [rows, table?, finish, argument, begun, docString]

theorem rows_finish_of_row (line : Line) :
    ({ step with table := some (Table.Draft.add step.table line).1 } : Draft).finish.rows =
      step.finish.rows ++ [.onLine line] := by
  cases begun : step.table <;>
    simp [rows_finish, begun, Table.Draft.add, Table.Draft.finish, Table.allRows]

/-- A line is a further row of the step, unless it starts with a separator or is read within
a doc-string. -/
theorem Continues.rows_eq (continues : Continues dialect line step next) :
    next.finish.rows = step.finish.rows ++
      if step.inDocString || dialect.isSeparator line then [] else [.onLine line] := by
  cases continues with
  | content unfinished isOpen => simp [rows_finish, inDocString_of_open unfinished isOpen]
  | row free role unmarked => simp [rows_finish_of_row, inDocString_of_free free, unmarked]
  | opening free admitted opens =>
      simp [rows_finish, Body.Draft.isSeparator_eq_true_iff.mpr ⟨_, opens⟩]

/-- Outside of doc-strings a line that is accepted is a row or a separator. -/
theorem Continues.role_eq (continues : Continues dialect line step next)
    (outside : step.inDocString = false) (unmarked : dialect.isSeparator line = false) :
    dialect.role line = .tableRow := by
  cases continues with
  | content unfinished isOpen =>
      rw [inDocString_of_open unfinished isOpen] at outside
      cases outside
  | row free role => exact role
  | opening free admitted opens =>
      rw [Body.Draft.isSeparator_eq_true_iff.mpr ⟨_, opens⟩] at unmarked
      cases unmarked

theorem Reads.rows_eq (run : Reads dialect step lines final) :
    final.finish.rows = step.finish.rows ++
      ((step.outside dialect lines).filter fun line => !dialect.isSeparator line).map Row.onLine := by
  induction run with
  | nil => simp [outside]
  | @cons step final line rest accepted later inductionHypothesis =>
      rw [inductionHypothesis, (continues_of_accepts accepted).rows_eq, outside]
      cases step.inDocString <;> cases marked : dialect.isSeparator line <;> simp [marked]

theorem Reads.role_of_outside (run : Reads dialect step lines final) :
    ∀ line ∈ step.outside dialect lines, dialect.isSeparator line = false →
      dialect.role line = .tableRow := by
  induction run with
  | nil => exact fun _ listed => absurd listed List.not_mem_nil
  | @cons step final line rest accepted later inductionHypothesis =>
      rw [outside]
      cases inside : step.inDocString with
      | true => exact inductionHypothesis
      | false =>
          refine List.forall_mem_cons.mpr ⟨?_, inductionHypothesis⟩
          exact (continues_of_accepts accepted).role_eq inside

/-- The rows are complete exactly if none of the lines that are table rows starts with a
separator. -/
theorem Reads.rows_eq_iff (run : Reads dialect start lines final) (bare : start.table = none) :
    final.finish.rows =
        ((start.outside dialect lines).filter fun line => dialect.role line = .tableRow).map
          Row.onLine ↔
      ∀ line ∈ start.outside dialect lines, dialect.role line = .tableRow →
        dialect.isSeparator line = false := by
  have kept : (start.outside dialect lines).filter (fun line => !dialect.isSeparator line) =
      ((start.outside dialect lines).filter fun line => dialect.role line = .tableRow).filter
        fun line => !dialect.isSeparator line := by
    rw [List.filter_filter]
    refine List.filter_congr fun line listed => ?_
    cases marked : dialect.isSeparator line with
    | true => rfl
    | false => simp [run.role_of_outside line listed marked]
  have rows := run.rows_eq
  rw [rows_finish start, bare, Option.map_none, Option.getD_none, List.nil_append, kept] at rows
  rw [rows]
  constructor
  · intro same line listed role
    have size := congrArg List.length same
    rw [List.length_map, List.length_map] at size
    have unmarked := List.length_filter_eq_length_iff.mp size line
      (List.mem_filter.mpr ⟨listed, by simpa using role⟩)
    simpa using unmarked
  · intro unmarked
    rw [List.filter_eq_self.mpr]
    intro line among
    rcases List.mem_filter.mp among with ⟨listed, role⟩
    simp [unmarked line listed (by simpa using role)]

/-! ## One argument -/

/-- What a step that has read certain lines can have as its arguments in progress, if no
line was lost. -/
inductive Holds (separators : Separators) (before : List Line) (step : Draft) : Prop
  | nothing (untouched : before = []) (bare : step.table = none) (free : step.docString = none)
  | table {table : Table.Draft} (free : step.docString = none) (begun : step.table = some table)
      (rows : table.finish.allRows = before.map Row.onLine)
  | docString {docString : DocString.Draft} (bare : step.table = none)
      (begun : step.docString = some docString)
      (read : before.foldl (DocString.Draft.extend separators) none = some docString)

theorem Holds.continue {before : List Line} (holds : Holds dialect.separators before step)
    (continues : Continues dialect line step next)
    (unmarked : step.inDocString = false → dialect.role line = .tableRow →
      dialect.isSeparator line = false) :
    Holds dialect.separators (before ++ [line]) next := by
  cases continues with
  | @content docString unfinished isOpen =>
      cases holds with
      | nothing untouched bare free | table free => cases free.symm.trans unfinished
      | docString bare begun read =>
          cases begun.symm.trans unfinished
          refine .docString bare rfl ?_
          rw [List.foldl_append, read]
          rfl
  | row free role =>
      cases holds with
      | nothing untouched bare =>
          refine .table free rfl ?_
          rw [untouched, bare]
          rfl
      | table _ begun rows =>
          refine .table free rfl ?_
          rw [List.map_append, ← rows, begun]
          simp [Table.Draft.add, Table.Draft.finish, Table.allRows]
      | docString bare begun => cases free.symm.trans begun
  | opening free admitted opens =>
      -- A row cannot have opened the doc-string, so there is no table either.
      have bare : step.table = none := by
        refine admitted.resolve_left fun role => ?_
        have plain := unmarked (inDocString_of_free free) role
        rw [Body.Draft.isSeparator_eq_true_iff.mpr ⟨_, opens⟩] at plain
        cases plain
      cases holds with
      | nothing untouched =>
          refine .docString bare rfl ?_
          rw [untouched]
          exact Body.Draft.extend_none opens
      | table _ begun => cases bare.symm.trans begun
      | docString _ begun => cases free.symm.trans begun

theorem Reads.holds (run : Reads dialect step lines final) {before : List Line}
    (holds : Holds dialect.separators before step)
    (unmarked : ∀ line ∈ step.outside dialect lines, dialect.role line = .tableRow →
      dialect.isSeparator line = false) :
    Holds dialect.separators (before ++ lines) final := by
  induction run generalizing before with
  | nil => rwa [List.append_nil]
  | @cons step final line rest accepted later inductionHypothesis =>
      rw [outside] at unmarked
      have here : step.inDocString = false → dialect.role line = .tableRow →
          dialect.isSeparator line = false := by
        intro outside
        rw [outside] at unmarked
        exact unmarked line List.mem_cons_self
      have behind : ∀ other ∈ (step.add dialect line).1.outside dialect rest,
          dialect.role other = .tableRow → dialect.isSeparator other = false := by
        intro other listed
        apply unmarked other
        split_ifs
        · exact listed
        · exact List.mem_cons_of_mem _ listed
      have further := inductionHypothesis (holds.continue (continues_of_accepts accepted) here) behind
      rwa [List.append_assoc, List.singleton_append] at further

theorem Holds.single (holds : Holds dialect.separators lines step) :
    step.table = none ∨ step.docString = none := by
  cases holds with
  | nothing untouched bare | docString bare => exact .inl bare
  | table free => exact .inr free

theorem Holds.readFrom (holds : Holds dialect.separators lines step) :
    Argument.ReadFrom dialect.separators lines step.finish.argument := by
  cases holds with
  | nothing untouched bare free =>
      rw [untouched]
      simpa [finish, argument, bare, free] using Argument.ReadFrom.nothing
  | table free begun rows =>
      simpa [finish, argument, begun] using Argument.ReadFrom.table rows
  | docString bare begun read =>
      simpa [finish, argument, bare, begun] using Argument.ReadFrom.docString read

/-- If no row starts with a separator, a step keeps every line that it accepts. -/
theorem Reads.keeps (run : Reads dialect start lines final) (bare : start.table = none)
    (free : start.docString = none)
    (unmarked : ∀ line ∈ start.outside dialect lines, dialect.role line = .tableRow →
      dialect.isSeparator line = false) :
    Keeps dialect start lines final := by
  have holds : Holds dialect.separators lines final := run.holds (.nothing rfl bare free) unmarked
  refine ⟨holds.single, (run.rows_eq_iff bare).mpr unmarked, ?_, ?_, holds.readFrom⟩
  · intro table begun
    simp [finish, argument, Option.mem_def.mp begun]
  · intro docString begun
    have alone : final.table = none :=
      holds.single.resolve_right (by rw [Option.mem_def.mp begun]; exact Option.some_ne_none _)
    simp [finish, argument, alone, Option.mem_def.mp begun]

/-- A step that reads the lines which it accepts keeps all of them, in one argument, exactly
if no table row among the lines outside of doc-strings starts with a separator. -/
theorem keeps_iff_unmarked {first : Line} (starts : onLine? dialect first = some start)
    (run : Reads dialect start lines final) :
    Keeps dialect start lines final ↔
      ∀ line ∈ start.outside dialect lines, dialect.role line = .tableRow →
        dialect.isSeparator line = false := by
  have role := exists_role_of_onLine? starts
  rw [onLine?_of_role role, Option.some.injEq] at starts
  have bare : start.table = none := by rw [← starts]
  have free : start.docString = none := by rw [← starts]
  exact ⟨fun keeps => (run.rows_eq_iff bare).mp keeps.rows, run.keeps bare free⟩

/-- Beside a separator that starts with a bar there is a table of rows that do not start with
it, and it is kept. -/
theorem plain_rows_kept : ∃ start final,
    onLine? ⟨.english, "|x".toList, "```".toList⟩ ⟨"Given a".toList, 1⟩ = some start ∧
    Reads ⟨.english, "|x".toList, "```".toList⟩ start
      [⟨"  | a |".toList, 2⟩, ⟨"  | x |".toList, 3⟩] final ∧
    Keeps ⟨.english, "|x".toList, "```".toList⟩ start
      [⟨"  | a |".toList, 2⟩, ⟨"  | x |".toList, 3⟩] final := by
  have starts : onLine? ⟨.english, "|x".toList, "```".toList⟩ ⟨"Given a".toList, 1⟩ = some _ := rfl
  refine ⟨_, _, starts, .cons (by decide) (.cons (by decide) (.nil _)), ?_⟩
  exact (keeps_iff_unmarked starts (.cons (by decide) (.cons (by decide) (.nil _)))).mpr (by decide)

/-- A row that starts with the separator is accepted behind a table and begins a doc-string, which
is lost together with the row. -/
theorem marked_row_lost : ∃ start final,
    onLine? ⟨.english, "|x".toList, "```".toList⟩ ⟨"Given a".toList, 1⟩ = some start ∧
    Reads ⟨.english, "|x".toList, "```".toList⟩ start
      [⟨"  | a |".toList, 2⟩, ⟨"  |x|".toList, 3⟩] final ∧
    final.table.isSome ∧ final.docString.isSome ∧
    final.finish.rows = [.onLine ⟨"  | a |".toList, 2⟩] := by
  exact ⟨_, _, rfl, .cons (by decide) (.cons (by decide) (.nil _)), by decide +kernel⟩

/-! ## Separators that leave no room for the exception -/

/-- A row that starts with a separator needs a separator that starts with a bar. -/
theorem isSeparator_of_unbarred
    (unbarred : ∀ separator ∈ [dialect.separators.primary, dialect.separators.alternative],
      separator.head? ≠ some '|') (role : dialect.role line = .tableRow) :
    dialect.isSeparator line = false := by
  refine Bool.eq_false_iff.mpr fun marked => ?_
  rcases Option.isSome_iff_exists.mp marked with ⟨separator, found⟩
  have listed := List.mem_of_find?_eq_some found
  rcases Separators.prefix_of_matching? found with ⟨present, starts⟩
  rcases List.isPrefixOf_iff_prefix.mp (Dialect.bar_isPrefixOf_of_role role) with ⟨row, bar⟩
  cases separator with
  | nil => exact present rfl
  | cons mark rest =>
      rw [← bar] at starts
      exact unbarred _ listed (congrArg some (List.cons_prefix_cons.mp starts).1)

/-- With such separators every step keeps the lines that it accepts. -/
theorem keeps_of_unbarred
    (unbarred : ∀ separator ∈ [dialect.separators.primary, dialect.separators.alternative],
      separator.head? ≠ some '|') (run : Reads dialect start lines final)
    (bare : start.table = none) (free : start.docString = none) : Keeps dialect start lines final :=
  run.keeps bare free fun _ _ => isSeparator_of_unbarred unbarred

end Step.Draft
end Gherkin
