import Gherkin.Proofs.Grammar.Place

namespace Gherkin

open scoped Computability

/-!
# What is read derives from the grammar

A place is described by the words that lead to it: each place has a set of words,
`read`, which a step from place to place extends by one item.  At the end of an
accepted document this set is part of the language of the grammar, so every
accepted document derives from it.

The inclusions are proved in the algebra of word sets.  No word is taken apart:
a place gives up what was read before it in favour of a coarser expression, as
soon as the construct in progress can be counted among the finished ones.
-/

namespace Grammar

variable (dialect : Dialect)

/-- Any number of tag lines. -/
abbrev tags : WordSet Item :=
  (one dialect .tag)∗

/-- Any number of lines of a description. -/
abbrev texts : WordSet Item :=
  (one dialect .text)∗

/-- A document that has a feature. -/
def whole : WordSet Item :=
  tags dialect * one dialect .feature * header dialect

/-- The words that lead to a phase of a body. -/
def readBody : Body.Phase → WordSet Item
  | .description => texts dialect
  | .bare | .docString _ => texts dialect * steps dialect * one dialect .step
  | .table columns => texts dialect * steps dialect * (one dialect .step * rows dialect columns)
  | .closed => texts dialect * steps dialect * (one dialect .step * docString dialect)

/-- The words that lead to the heading of a body, with that heading. -/
def readOwner : Body.Owner → WordSet Item
  | .background => tags dialect * one dialect .feature * texts dialect * one dialect .background
  | .scenario => whole dialect * (tags dialect * one dialect .scenario)
  | .outline => whole dialect * (tags dialect * one dialect .scenarioOutline)

/-- An outline with any number of examples blocks, and all that stands before it. -/
def outlined : WordSet Item :=
  readOwner dialect .outline * (texts dialect * steps dialect) * (examples dialect)∗

/-- The words that lead to an examples block before its table. -/
def readExamples : WordSet Item :=
  outlined dialect * (tags dialect * one dialect .examples *
    (one dialect .text + one dialect .separator)∗)

/-- The words that lead to a place. -/
def readPlace : Place → WordSet Item
  | .opening => 1
  | .header => tags dialect * one dialect .feature * texts dialect
  | .body owner phase => readOwner dialect owner * readBody dialect phase
  | .examples none => readExamples dialect
  | .examples (some columns) => readExamples dialect * rows dialect columns

/-- The words that lead to a place, and to waiting tags if there are any. -/
def read (place : Place) (waiting : Bool) : WordSet Item :=
  if waiting then readPlace dialect place * tags dialect else readPlace dialect place

variable {dialect}

/-! ## Giving up detail -/

theorem read_le_tags (place : Place) (waiting : Bool) :
    read dialect place waiting ≤ readPlace dialect place * tags dialect := by
  cases waiting with
  | false => exact le_mul_of_one_le_right' one_le_kstar
  | true => exact le_rfl

/-- The argument of a step is a table, a doc-string or nothing. -/
theorem step_le_steps {argument : WordSet Item}
    (allowed : argument ≤ 1 + table dialect + docString dialect) :
    steps dialect * (one dialect .step * argument) ≤ steps dialect := by
  calc steps dialect * (one dialect .step * argument)
      ≤ steps dialect * (one dialect .step * (1 + table dialect + docString dialect)) := by gcongr
    _ ≤ steps dialect := kstar_mul_le_kstar

theorem rows_mul_row_le (columns : Nat) :
    rows dialect columns * row dialect columns ≤ rows dialect columns := by
  rw [rows, mul_assoc]
  exact mul_le_mul_right kstar_mul_le_kstar _

theorem row_le_rows (columns : Nat) : row dialect columns ≤ rows dialect columns :=
  le_mul_of_one_le_right' one_le_kstar

theorem rows_le_table (columns : Nat) : rows dialect columns ≤ table dialect :=
  le_iSup (rows dialect) columns

/-- A body in which no doc-string is open is complete. -/
theorem readBody_le {phase : Body.Phase} (outside : phase.separator? = none) :
    readBody dialect phase ≤ texts dialect * steps dialect := by
  have finish (argument : WordSet Item) (allowed : argument ≤ 1 + table dialect + docString dialect) :
      texts dialect * steps dialect * (one dialect .step * argument) ≤
        texts dialect * steps dialect := by
    rw [mul_assoc]
    exact mul_le_mul_right (step_le_steps allowed) _
  cases phase with
  | description => exact le_mul_of_one_le_right' one_le_kstar
  | bare =>
      have bare := finish 1 (by rw [add_assoc]; exact le_self_add)
      rwa [mul_one] at bare
  | table columns =>
      refine finish _ ((rows_le_table columns).trans ?_)
      rw [add_comm 1, add_assoc]
      exact le_self_add
  | docString => cases outside
  | closed => exact finish _ le_add_self

theorem whole_mul_scenario_le : whole dialect * scenario dialect ≤ whole dialect := by
  rw [whole, header, mul_assoc, mul_assoc _ (scenario dialect)∗]
  exact mul_le_mul_right (mul_le_mul_right kstar_mul_le_kstar _) _

theorem outlined_mul_examples_le : outlined dialect * examples dialect ≤ outlined dialect := by
  rw [outlined, mul_assoc]
  exact mul_le_mul_right kstar_mul_le_kstar _

theorem outlined_le_whole : outlined dialect ≤ whole dialect := by
  have scenario_ : tags dialect * one dialect .scenarioOutline * (texts dialect * steps dialect) *
      (examples dialect)∗ ≤ scenario dialect := by
    rw [scenario, ← mul_assoc _ (texts dialect)]
    exact le_add_self
  calc outlined dialect
      = whole dialect * (tags dialect * one dialect .scenarioOutline *
          (texts dialect * steps dialect) * (examples dialect)∗) := by
        simp only [outlined, readOwner, mul_assoc]
    _ ≤ whole dialect * scenario dialect := by gcongr
    _ ≤ whole dialect := whole_mul_scenario_le

/-- An outline is complete wherever an examples block may follow. -/
theorem readPlace_le_outlined {place : Place} (inOutline : place.InOutline)
    (outside : place.separator? = none) : readPlace dialect place ≤ outlined dialect := by
  cases place with
  | opening | header => cases inOutline
  | body owner phase =>
      cases inOutline
      calc readOwner dialect .outline * readBody dialect phase
          ≤ readOwner dialect .outline * (texts dialect * steps dialect) := by
            gcongr
            exact readBody_le outside
        _ ≤ outlined dialect := le_mul_of_one_le_right' one_le_kstar
  | examples columns =>
      have block (rest : WordSet Item) (allowed : rest ≤ 1 + table dialect) :
          readExamples dialect * rest ≤ outlined dialect := by
        calc readExamples dialect * rest
            ≤ readExamples dialect * (1 + table dialect) := by gcongr
          _ = outlined dialect * examples dialect := by
            simp only [readExamples, examples, mul_assoc]
          _ ≤ outlined dialect := outlined_mul_examples_le
      cases columns with
      | none =>
          have bare := block 1 le_self_add
          rwa [mul_one] at bare
      | some columns => exact block _ ((rows_le_table columns).trans le_add_self)

/-- What is read is a document wherever a scenario may follow. -/
theorem readPlace_le_whole {place : Place} (begun : place ≠ .opening)
    (outside : place.separator? = none) : readPlace dialect place ≤ whole dialect := by
  cases place with
  | opening => exact absurd rfl begun
  | header =>
      rw [readPlace, whole, header, mul_assoc (texts dialect)]
      exact mul_le_mul_right (le_mul_of_one_le_right' (one_le_mul le_self_add one_le_kstar)) _
  | body owner phase =>
      cases owner with
      | background =>
          calc readOwner dialect .background * readBody dialect phase
              ≤ readOwner dialect .background * (texts dialect * steps dialect) := by
                gcongr
                exact readBody_le outside
            _ = tags dialect * one dialect .feature * (texts dialect *
                  (one dialect .background * texts dialect * steps dialect)) := by
                simp only [readOwner, mul_assoc]
            _ ≤ whole dialect := by
                rw [whole, header]
                refine mul_le_mul_right (le_mul_of_le_of_one_le ?_ one_le_kstar) _
                exact mul_le_mul_right le_add_self _
      | scenario =>
          calc readOwner dialect .scenario * readBody dialect phase
              ≤ readOwner dialect .scenario * (texts dialect * steps dialect) := by
                gcongr
                exact readBody_le outside
            _ = whole dialect * (tags dialect * one dialect .scenario * texts dialect *
                  steps dialect) := by simp only [readOwner, mul_assoc]
            _ ≤ whole dialect * scenario dialect := mul_le_mul_right le_self_add _
            _ ≤ whole dialect := whole_mul_scenario_le
      | outline =>
          have inOutline : (Place.body .outline phase).InOutline := rfl
          exact (readPlace_le_outlined inOutline outside).trans outlined_le_whole
  | examples columns =>
      have inOutline : (Place.examples columns).InOutline := True.intro
      exact (readPlace_le_outlined inOutline outside).trans outlined_le_whole

/-! ## One line more -/

variable {line : Line} {place later : Place} {waiting waits : Bool}

theorem mem_one {kind : Kind} (given : dialect.kind line = kind) : [.line line] ∈ one dialect kind :=
  ⟨line, rfl, given⟩

theorem mem_row (given : dialect.kind line = .row) :
    [.line line] ∈ row dialect (Row.cellsOnLine line).length :=
  ⟨line, rfl, given, rfl⟩

/-- A line that takes a body from one phase to another outside doc-strings, and is not
blank, extends the words of the first to words of the second. -/
theorem exists_readBody_mul_le {phase next : Body.Phase}
    (step : Body.Phase.Step dialect line phase next) (outside : phase.separator? = none)
    (closed : next.separator? = none) (solid : dialect.kind line ≠ .blank) :
    ∃ letter, [.line line] ∈ letter ∧ readBody dialect phase * letter ≤ readBody dialect next := by
  cases step with
  | blank _ kind => exact absurd kind solid
  | text kind => exact ⟨_, mem_one kind, kstar_mul_le_kstar⟩
  | step _ kind => exact ⟨_, mem_one kind, mul_le_mul_left (readBody_le outside) _⟩
  | header kind =>
      refine ⟨_, mem_row kind, ?_⟩
      rw [readBody, readBody, mul_assoc (texts dialect * steps dialect)]
      exact mul_le_mul_right (mul_le_mul_right (row_le_rows _) _) _
  | row kind =>
      refine ⟨_, mem_row kind, ?_⟩
      rw [readBody, mul_assoc, mul_assoc (one dialect .step)]
      exact mul_le_mul_right (mul_le_mul_right (rows_mul_row_le _) _) _
  | opening => cases closed
  | content | closing => cases outside

/-- A heading claims the waiting tags. -/
theorem read_mul_le {before heading : WordSet Item} (prior : readPlace dialect place ≤ before) :
    read dialect place waiting * heading ≤ before * (tags dialect * heading) := by
  rw [← mul_assoc]
  exact mul_le_mul_left ((read_le_tags place waiting).trans (mul_le_mul_left prior _)) _

/-- A line that takes a document from one place to another outside doc-strings, and is
not trivial, extends the words of the first to words of the second. -/
theorem exists_read_mul_le (step : Place.Step dialect line place waiting later waits)
    (outside : place.separator? = none) (closed : later.separator? = none)
    (significant : dialect.kind line ≠ .blank ∧ dialect.kind line ≠ .comment) :
    ∃ letter, [.line line] ∈ letter ∧ read dialect place waiting * letter ≤ read dialect later waits := by
  cases step with
  | trivial _ kind => exact absurd kind (not_or.mpr significant)
  | tag _ kind faultless =>
      refine ⟨_, mem_one kind, ?_⟩
      calc read dialect place waiting * one dialect .tag
          ≤ readPlace dialect place * tags dialect * one dialect .tag := by
            gcongr
            exact read_le_tags place waiting
        _ ≤ readPlace dialect place * tags dialect := by
            rw [mul_assoc]
            exact mul_le_mul_right kstar_mul_le_kstar _
  | feature kind =>
      refine ⟨_, mem_one kind, ?_⟩
      calc read dialect .opening waiting * one dialect .feature
          ≤ 1 * tags dialect * one dialect .feature := by
            gcongr
            exact read_le_tags .opening waiting
        _ = tags dialect * one dialect .feature := by rw [one_mul]
        _ ≤ read dialect .header false := le_mul_of_one_le_right' one_le_kstar
  | text kind =>
      refine ⟨_, mem_one kind, ?_⟩
      change tags dialect * one dialect .feature * texts dialect * one dialect .text ≤ _
      rw [mul_assoc]
      exact mul_le_mul_right kstar_mul_le_kstar _
  | background kind => exact ⟨_, mem_one kind, le_mul_of_one_le_right' one_le_kstar⟩
  | scenario begun _ kind =>
      exact ⟨_, mem_one kind, (read_mul_le (readPlace_le_whole begun outside)).trans
        (le_mul_of_one_le_right' one_le_kstar)⟩
  | outline begun _ kind =>
      exact ⟨_, mem_one kind, (read_mul_le (readPlace_le_whole begun outside)).trans
        (le_mul_of_one_le_right' one_le_kstar)⟩
  | examples inOutline _ kind =>
      exact ⟨_, mem_one kind, (read_mul_le (readPlace_le_outlined inOutline outside)).trans
        (mul_le_mul_right (le_mul_of_one_le_right' one_le_kstar) _)⟩
  | @body owner phase next step =>
      rcases exists_readBody_mul_le step outside closed significant.1 with ⟨letter, listed, grows⟩
      refine ⟨letter, listed, ?_⟩
      change readOwner dialect owner * readBody dialect phase * letter ≤ _
      rw [mul_assoc]
      exact mul_le_mul_right grows _
  | note kind =>
      refine ⟨one dialect .text + one dialect .separator, ?_, ?_⟩
      · exact kind.imp mem_one mem_one
      · change readExamples dialect * _ ≤ readExamples dialect
        rw [readExamples, mul_assoc, mul_assoc (tags dialect * one dialect .examples)]
        exact mul_le_mul_right (mul_le_mul_right kstar_mul_le_kstar _) _
  | firstRow kind => exact ⟨_, mem_row kind, mul_le_mul_right (row_le_rows _) _⟩
  | row kind =>
      refine ⟨_, mem_row kind, ?_⟩
      change readExamples dialect * rows dialect _ * row dialect _ ≤ _
      rw [mul_assoc]
      exact mul_le_mul_right (rows_mul_row_le _) _

/-! ## Whole runs -/

/-- The lines of an open doc-string: its opening line and lines that do not close it. -/
def Opened (dialect : Dialect) (separator : Text) (opened : List Line) : Prop :=
  ∃ opening body, opened = opening :: body ∧ dialect.kind opening = .separator ∧
    dialect.separators.matching? opening.trimmed = some separator ∧
    ∀ line ∈ body, line.startsWith separator = false

/-- What is known about lines that lead to a place: apart from those of an open doc-string
they are those of items, whose significant ones are a word that leads there. -/
def Explained (dialect : Dialect) (lines : List Line) (place : Place) (waiting : Bool) : Prop :=
  ∃ items opened, lines = items.flatMap Item.lines ++ opened ∧ Faultless dialect items ∧
    items.filter (Item.isSignificant dialect) ∈ read dialect place waiting ∧
    match place.separator? with
    | none => opened = []
    | some separator => Opened dialect separator opened

variable {lines : List Line}

theorem Faultless.append {items others : List Item} (first : Faultless dialect items)
    (second : Faultless dialect others) : Faultless dialect (items ++ others) := by
  intro line listed
  rcases List.mem_append.mp listed with listed | listed
  · exact first line listed
  · exact second line listed

/-- Outside doc-strings a step adds its line as an item. -/
private theorem Explained.outside_step (explained : Explained dialect lines place waiting)
    (step : Place.Step dialect line place waiting later waits)
    (outside : place.separator? = none) (closed : later.separator? = none) :
    Explained dialect (lines ++ [line]) later waits := by
  rcases explained with ⟨items, opened, rfl, faultless, word, none⟩
  rw [outside] at none
  have settled : opened = [] := none
  subst settled
  have tagged : Faultless dialect [.line line] := by
    intro other listed tag
    rcases Item.line.inj (List.mem_singleton.mp listed) with rfl
    exact Tag.faultsOnLine_eq_nil_iff.mp (step.faultless_of_tag outside tag)
  refine ⟨items ++ [.line line], [], by simp [Item.lines], faultless.append tagged, ?_, ?_⟩
  · cases significant : Item.isSignificant dialect (.line line) with
    | true =>
        rcases exists_read_mul_le step outside closed (of_decide_eq_true significant) with
          ⟨letter, listed, grows⟩
        rw [List.filter_append, List.filter_cons_of_pos significant, List.filter_nil]
        exact grows (Language.append_mem_mul word listed)
    | false =>
        rcases step.eq_of_trivial outside
            (by simpa [Item.isSignificant, or_iff_not_imp_left] using significant) with ⟨rfl, rfl⟩
        simpa [List.filter_append, significant] using word
  · rw [closed]

/-- A line that opens a doc-string is set aside. -/
private theorem Explained.opening_step {owner : Body.Owner} {separator : Text}
    (explained : Explained dialect lines (.body owner .bare) false)
    (kind : dialect.kind line = .separator)
    (found : dialect.separators.matching? line.trimmed = some separator) :
    Explained dialect (lines ++ [line]) (.body owner (.docString separator)) false := by
  rcases explained with ⟨items, opened, rfl, faultless, word, none⟩
  have none : opened = [] := none
  subst none
  exact ⟨items, [line], by simp, faultless, word, line, [], rfl, kind, found, nofun⟩

/-- So is a line that leaves it open. -/
private theorem Explained.content_step {owner : Body.Owner} {separator : Text}
    (explained : Explained dialect lines (.body owner (.docString separator)) false)
    (unclosed : line.startsWith separator = false) :
    Explained dialect (lines ++ [line]) (.body owner (.docString separator)) false := by
  rcases explained with ⟨items, opened, rfl, faultless, word, opening, body, rfl, kind, found, kept⟩
  refine ⟨items, opening :: (body ++ [line]), by simp, faultless, word, opening, body ++ [line], rfl,
    kind, found, ?_⟩
  intro other listed
  rcases List.mem_append.mp listed with listed | listed
  · exact kept other listed
  · exact List.mem_singleton.mp listed ▸ unclosed

/-- With the line that closes it, the lines of a doc-string are one item. -/
private theorem Explained.closing_step {owner : Body.Owner} {separator : Text}
    (explained : Explained dialect lines (.body owner (.docString separator)) false)
    (closes : line.startsWith separator = true) :
    Explained dialect (lines ++ [line]) (.body owner .closed) false := by
  rcases explained with ⟨items, opened, rfl, faultless, word, opening, body, rfl, kind, found, kept⟩
  have whole : [Item.docString opening body line] ∈ docString dialect :=
    ⟨opening, body, line, _, rfl, kind, found, kept, closes⟩
  refine ⟨items ++ [.docString opening body line], [], by simp [Item.lines],
    faultless.append (by simp [Faultless]), ?_, rfl⟩
  rw [List.filter_append, List.filter_cons_of_pos rfl, List.filter_nil]
  refine (?_ : _ ≤ read dialect (.body owner .closed) false) (Language.append_mem_mul word whole)
  change readOwner dialect owner * (texts dialect * steps dialect * one dialect .step) *
    docString dialect ≤ _
  simp only [read, Bool.false_eq_true, if_false, readPlace, readBody, mul_assoc, le_rfl]

/-- The lines of a doc-string are set aside until it is closed, and are then one item. -/
theorem Explained.step (explained : Explained dialect lines place waiting)
    (step : Place.Step dialect line place waiting later waits) :
    Explained dialect (lines ++ [line]) later waits := by
  cases outside : place.separator? with
  | none =>
      cases closed : later.separator? with
      | none => exact explained.outside_step step outside closed
      | some separator =>
          rcases step.of_opening outside closed with ⟨rfl, rfl, kind, found, owner, rfl, rfl⟩
          exact explained.opening_step kind found
  | some separator =>
      rcases step.of_inside outside with ⟨rfl, rfl, owner, rfl, rfl⟩
      split_ifs with closes
      · exact explained.closing_step closes
      · exact explained.content_step (Bool.eq_false_iff.mpr closes)

/-- Lines that a document reads without a fault derive, as items, from the grammar. -/
theorem explained_of_reads {draft final : Document.Draft} {rest : List Line}
    (standard : dialect.separators = .standard) (run : Document.Draft.Reads dialect draft rest final)
    (here : draft.At place waiting) (explained : Explained dialect lines place waiting) :
    ∃ later waits, final.At later waits ∧ Explained dialect (lines ++ rest) later waits := by
  induction run generalizing lines place waiting with
  | nil => exact ⟨place, waiting, here, by simpa using explained⟩
  | cons taken run inductionHypothesis =>
      rcases here.step_of_takes standard taken with ⟨later, waits, there, step⟩
      rcases inductionHypothesis there (explained.step step) with ⟨last, finally_, arrived, whole⟩
      exact ⟨last, finally_, arrived, by simpa using whole⟩

/-- Outside doc-strings and without waiting tags, what is read is a document. -/
theorem read_le_document (outside : place.separator? = none) :
    read dialect place false ≤ document dialect := by
  by_cases begun : place = .opening
  · subst begun
    exact le_self_add
  · exact (readPlace_le_whole begun outside).trans le_add_self

end Grammar
end Gherkin
