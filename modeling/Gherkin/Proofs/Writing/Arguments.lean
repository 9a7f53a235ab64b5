import Gherkin.Proofs.DocString.Writing
import Gherkin.Proofs.Writing.Yields

namespace Gherkin

open Text (EndsSolid SingleLine Trimmed)

/-!
# Written arguments are read back

The rows of a table and the lines of a doc-string are followed line by line.  For
the rows this is done for every construct that takes them, because the tables of
steps and those of examples blocks are read alike.
-/

/-! ## Tables -/

theorem Row.erased_eq_of_values {row other : Row} (same : row.values = other.values) :
    row.erased = other.erased := by
  have cells (row : Row) : row.cells.map Cell.erased =
      row.values.map fun value => (⟨value, .erased⟩ : Cell) := by
    rw [Row.values, List.map_map]
    rfl
  rw [Row.erased, Row.erased, cells, cells, same]

namespace Table.Draft

/-- Apart from its places, a table is given by the texts in its cells. -/
theorem erased_finish_eq {draft other : Table.Draft} (header : draft.header.values = other.header.values)
    (rows : draft.rows.map Row.values = other.rows.map Row.values) :
    draft.finish.erased = other.finish.erased := by
  have content (draft : Table.Draft) : draft.finish.erased =
      { columns := draft.header.values
        header := draft.header.erased
        rows := (draft.rows.map Row.erased).reverse
        headerLocation := .erased
        bodyLocation := (draft.rows.map Row.values).reverse.head?.map fun _ => Location.erased } := by
    simp [Table.erased, finish, ← List.map_reverse, Function.comp_def]
  have cells : draft.rows.map Row.erased = other.rows.map Row.erased := by
    have lift (rows : List Row) : rows.map Row.erased =
        (rows.map Row.values).map fun values =>
          (⟨values.map fun value => ⟨value, .erased⟩, .erased⟩ : Row) := by
      rw [List.map_map]
      refine List.map_congr_left fun row _ => ?_
      simp [Row.erased, Row.values, Cell.erased]
    rw [lift, lift, rows]
  rw [content, content, header, rows, cells, Row.erased_eq_of_values header]

variable {dialect : Dialect} {State : Type} {takes : Line → State → State → Prop}

/-- What a construct that takes rows does with a row that fits its table. -/
def Accepts (dialect : Dialect) (takes : Line → State → State → Prop)
    (embed : Option Table.Draft → State) : Prop :=
  ∀ (line : Line) table, dialect.role line = .tableRow → dialect.isSeparator line = false →
    (Table.Draft.add table line).2 = [] →
    takes line (embed table) (embed (some (Table.Draft.add table line).1))

/-- The written row of a table. -/
def line (widths : List Nat) (values : List Text) : Text :=
  List.replicate Layout.argumentIndent ' ' ++ writtenRow widths (values.map escapeCell)

theorem role_line (regular : dialect.language.Regular) (widths : List Nat) (values : List Text)
    (number : Nat) : dialect.role ⟨line widths values, number⟩ = .tableRow := by
  have solid : Text.isSpace '|' = false := by decide
  apply regular.tableRow_of_bar
  rw [line, writtenRow, List.singleton_append]
  exact Text.head?_trim (Text.isBlank_margin _) solid

theorem singleLine_line (widths : List Nat) (values : List Text) : SingleLine (line widths values) :=
  Text.singleLine_append.mpr ⟨Text.singleLine_margin _, singleLine_writtenRow widths values⟩

theorem values_onLine_line {widths : List Nat} {values : List Text}
    (clean : ∀ value ∈ values, Cell.Clean value) (wide : values.length ≤ widths.length) (number : Nat) :
    (Row.onLine ⟨line widths values, number⟩).values = values :=
  Row.values_onLine_writtenRow clean wide _ number

theorem length_cells (row : Row) : row.cells.length = row.values.length :=
  (List.length_map _).symm

private theorem yields_rows (regular : dialect.language.Regular)
    (standard : dialect.separators = .standard) {embed : Option Table.Draft → State}
    (accepts : Accepts dialect takes embed) {widths : List Nat} {rows : List (List Text)}
    (clean : ∀ values ∈ rows, ∀ value ∈ values, Cell.Clean value)
    (wide : ∀ values ∈ rows, values.length ≤ widths.length) (table : Table.Draft)
    (even : ∀ values ∈ rows, values.length = table.header.cells.length) :
    Yields takes (fun reached => ∃ again : Table.Draft, again.header = table.header ∧
        again.rows.map Row.values = rows.reverse ++ table.rows.map Row.values ∧
        reached = embed (some again))
      (rows.map (line widths)) (embed (some table)) := by
  induction rows generalizing table with
  | nil => exact ⟨table, rfl, rfl, rfl⟩
  | cons values rest inductionHypothesis =>
      refine ⟨singleLine_line widths values, fun number => ?_⟩
      have role := role_line regular widths values number
      have read := values_onLine_line (clean values List.mem_cons_self) (wide values List.mem_cons_self)
        number
      have faultless : (Table.Draft.add (some table) ⟨line widths values, number⟩).2 = [] := by
        apply if_pos
        rw [length_cells, read]
        exact even values List.mem_cons_self
      refine ⟨_, accepts _ _ role (Dialect.isSeparator_of_role standard role) faultless, ?_⟩
      refine (inductionHypothesis (fun other listed => clean other (List.mem_cons_of_mem _ listed))
        (fun other listed => wide other (List.mem_cons_of_mem _ listed))
        (Table.Draft.add (some table) ⟨line widths values, number⟩).1
        (fun other listed => even other (List.mem_cons_of_mem _ listed))).mono ?_
      intro reached found
      rcases found with ⟨again, header, same, rfl⟩
      have added : (Table.Draft.add (some table) ⟨line widths values, number⟩).1.rows.map Row.values =
          values :: table.rows.map Row.values := congrArg (· :: table.rows.map Row.values) read
      refine ⟨again, header, ?_, rfl⟩
      rw [same, added, List.reverse_cons, List.append_assoc, List.singleton_append]

/-- The written table is read back by every construct that takes its rows. -/
theorem Legible.yields {draft : Table.Draft} (legible : draft.Legible)
    (regular : dialect.language.Regular) (standard : dialect.separators = .standard)
    {embed : Option Table.Draft → State} (accepts : Accepts dialect takes embed) :
    Yields takes (fun reached => ∃ again : Table.Draft, again.finish.erased = draft.finish.erased ∧
        reached = embed (some again))
      (draft.finish.layout Layout.argumentIndent) (embed none) := by
  have written : draft.finish.layout Layout.argumentIndent =
      (draft.header.values :: draft.rows.reverse.map Row.values).map
        (line (widths (draft.finish.values.map fun row => row.map escapeCell))) := by
    simp [layout, line, Table.values, allRows, finish]
  have wide : ∀ values ∈ draft.header.values :: draft.rows.reverse.map Row.values,
      values.length ≤ (widths (draft.finish.values.map fun row => row.map escapeCell)).length := by
    intro values listed
    have listed : values.map escapeCell ∈ draft.finish.values.map fun row => row.map escapeCell :=
      List.mem_map_of_mem listed
    simpa using length_le_widths listed
  rw [written]
  generalize widths (draft.finish.values.map fun row => row.map escapeCell) = columns at wide
  have read (number : Nat) :
      (Row.onLine ⟨line columns draft.header.values, number⟩).values = draft.header.values :=
    values_onLine_line legible.header (wide _ List.mem_cons_self) number
  refine ⟨singleLine_line columns draft.header.values, fun number => ?_⟩
  have role := role_line regular columns draft.header.values number
  refine ⟨_, accepts _ none role (Dialect.isSeparator_of_role standard role) rfl, ?_⟩
  refine (yields_rows regular standard accepts ?_
    (fun values listed => wide values (List.mem_cons_of_mem _ listed)) _ ?_).mono ?_
  · intro values listed
    rcases List.mem_map.mp listed with ⟨row, among, rfl⟩
    exact legible.cells row (List.mem_reverse.mp among)
  · intro values listed
    rcases List.mem_map.mp listed with ⟨row, among, rfl⟩
    have same := legible.even row (List.mem_reverse.mp among)
    rw [length_cells, length_cells] at same
    rw [Table.Draft.add, length_cells, read, same]
  · intro reached found
    rcases found with ⟨again, header, rows, rfl⟩
    refine ⟨again, erased_finish_eq ?_ ?_, rfl⟩
    · rw [header, Table.Draft.add, read]
    · rw [rows, Table.Draft.add, List.map_nil, List.append_nil, ← List.map_reverse, List.reverse_reverse]

end Table.Draft

/-! ## Doc-strings -/

namespace Separators

/-- The standard separators consist of three equal quotes. -/
theorem exists_quote_of_standard {trimmed separator : Text}
    (found : Separators.standard.matching? trimmed = some separator) :
    ∃ mark ∈ ['"', '`', byteOrderMark], separator = [mark, mark, mark] := by
  have listed := List.mem_of_find?_eq_some found
  rcases List.mem_cons.mp listed with rfl | listed
  · exact ⟨'"', by decide, rfl⟩
  · rw [List.mem_singleton.mp listed]
    exact ⟨'`', by decide, rfl⟩

end Separators

namespace DocString.Draft

variable {dialect : Dialect} {State : Type} {takes : Line → State → State → Prop}
  {draft : DocString.Draft}

/-- What a construct that takes doc-strings does with the lines of one. -/
structure Accepts (dialect : Dialect) (takes : Line → State → State → Prop)
    (embed : Option DocString.Draft → State) : Prop where
  opening : ∀ line opening, dialect.role line = .plain →
    Opening.onLine? dialect.separators line = some opening →
    takes line (embed none) (embed (some ⟨opening, [], true⟩))
  content : ∀ line current, current.isOpen = true →
    takes line (embed (some current)) (embed (some (current.add line)))

/-- Lines of which the first is not blank come back from their text. -/
theorem lines_of_inner {parts : List Text} (single : ∀ part ∈ parts, SingleLine part)
    (inner : Text.Inner parts) :
    (if (Text.joinLines parts).isEmpty then [] else Text.lines (Text.joinLines parts)) = parts := by
  cases parts with
  | nil => rfl
  | cons first rest =>
      have same := Text.lines_joinLines single (List.cons_ne_nil first rest)
      split_ifs with empty
      · exfalso
        rw [List.isEmpty_iff.mp empty] at same
        have blank := inner.1 first rfl
        rw [← (List.cons.inj same).1] at blank
        cases blank
      · exact same

/-- The content is written as its lines, of which neither the first nor the last is blank. -/
theorem contentLines_finish (single : ∀ text ∈ draft.body, SingleLine text) :
    contentLines draft.finish = Text.innerLines draft.body.reverse :=
  lines_of_inner
    (fun text listed => single text (List.mem_reverse.mp (Text.mem_of_mem_innerLines listed)))
    (Text.inner_innerLines draft.body.reverse)

/-- The written opening line of a doc-string. -/
def openingLine (opening : Opening) : Text :=
  List.replicate Layout.argumentIndent ' ' ++ (opening.separator ++ opening.mediaType.getD [])

theorem Legible.standard_separator (legible : draft.Legible dialect)
    (standard : dialect.separators = .standard) :
    draft.opening.separator ∈ [Separators.standard.primary, Separators.standard.alternative] := by
  rcases legible.separator with ⟨trimmed, found⟩
  rw [standard] at found
  exact List.mem_of_find?_eq_some found

theorem Legible.exists_triple (legible : draft.Legible dialect)
    (standard : dialect.separators = .standard) : ∃ mark, Triple draft.opening.separator mark :=
  exists_triple_of_mem (legible.standard_separator standard)

/-- The written opening line opens a doc-string of the same separator and media type. -/
theorem Legible.exists_opening (legible : draft.Legible dialect)
    (standard : dialect.separators = .standard) (number : Nat) :
    ∃ again, Opening.onLine? dialect.separators ⟨openingLine draft.opening, number⟩ = some again ∧
      again.separator = draft.opening.separator ∧ again.mediaType = draft.opening.mediaType ∧
      again.indent = Layout.argumentIndent := by
  rw [standard]
  exact DocString.exists_opening (legible.standard_separator standard) legible.mediaType
    Layout.argumentIndent number

theorem Legible.role_openingLine (legible : draft.Legible dialect)
    (regular : dialect.language.Regular) (standard : dialect.separators = .standard) (number : Nat) :
    dialect.role ⟨openingLine draft.opening, number⟩ = .plain := by
  rcases legible.separator with ⟨trimmed, found⟩
  rw [standard] at found
  rcases Separators.exists_quote_of_standard found with ⟨mark, quote, same⟩
  rcases legible.exists_triple standard with ⟨_, triple⟩
  refine regular.plain_of_quote ?_ quote
  rw [openingLine, Text.trim_append_left (Text.isBlank_margin _),
    Text.trim_eq_self (triple.trimmed_append legible.mediaType), same]
  rfl

theorem Legible.singleLine_openingLine (legible : draft.Legible dialect)
    (standard : dialect.separators = .standard) : SingleLine (openingLine draft.opening) := by
  rcases legible.exists_triple standard with ⟨mark, triple⟩
  rw [openingLine]
  simp only [Text.singleLine_append]
  refine ⟨Text.singleLine_margin _, triple.singleLine, ?_⟩
  cases media : draft.opening.mediaType with
  | none => exact Text.singleLine_nil
  | some mediaType => exact (legible.mediaType mediaType media).2.2

/-- A line that was read is read again from its written form. -/
theorem reread_of_unescaped {separator text : Text} {mark : Char} (triple : Triple separator mark)
    (unescaped : text.isBlank = true ∨ ∃ source, text = unescape separator source) :
    reread separator text = text := by
  rcases unescaped with white | ⟨source, rfl⟩
  · exact triple.reread_of_isBlank white
  · exact triple.uniform.unescape_escape source

private theorem yields_content {embed : Option Draft → State} (accepts : Accepts dialect takes embed)
    {opening : Opening} {mark : Char} (triple : Triple opening.separator mark)
    (indent : opening.indent = Layout.argumentIndent) {texts : List Text}
    (single : ∀ text ∈ texts, SingleLine text)
    (unescaped : ∀ text ∈ texts, text.isBlank = true ∨ ∃ source, text = unescape opening.separator source)
    (body : List Text) :
    Yields takes (fun reached => reached = embed (some ⟨opening, texts.reverse ++ body, true⟩))
      (texts.map (writtenLine Layout.argumentIndent opening.separator))
      (embed (some ⟨opening, body, true⟩)) := by
  induction texts generalizing body with
  | nil => rfl
  | cons text rest inductionHypothesis =>
      refine ⟨triple.singleLine_writtenLine _ (single text List.mem_cons_self), fun number => ?_⟩
      have same := reread_of_unescaped triple (unescaped text List.mem_cons_self)
      have added := add_writtenLine triple body text number
      rw [indent, same] at added
      refine ⟨_, accepts.content _ _ rfl, ?_⟩
      rw [added, List.reverse_cons, List.append_assoc, List.singleton_append]
      exact inductionHypothesis (fun other listed => single other (List.mem_cons_of_mem _ listed))
        (fun other listed => unescaped other (List.mem_cons_of_mem _ listed)) (text :: body)

/-- The written doc-string is read back, and closed, by a construct that takes its lines. -/
theorem Legible.yields (legible : draft.Legible dialect) (regular : dialect.language.Regular)
    (standard : dialect.separators = .standard) {embed : Option Draft → State}
    (accepts : Accepts dialect takes embed) :
    Yields takes (fun reached => ∃ again : Draft, again.isOpen = false ∧
        again.finish.erased = draft.finish.erased ∧ reached = embed (some again))
      (draft.finish.layout Layout.argumentIndent) (embed none) := by
  rcases legible.exists_triple standard with ⟨mark, triple⟩
  have within : ∀ text ∈ Text.innerLines draft.body.reverse, text ∈ draft.body := fun text listed =>
    List.mem_reverse.mp (Text.mem_of_mem_innerLines listed)
  have written : draft.finish.layout Layout.argumentIndent =
      openingLine draft.opening :: ((Text.innerLines draft.body.reverse).map
        (writtenLine Layout.argumentIndent draft.opening.separator) ++
          [List.replicate Layout.argumentIndent ' ' ++ draft.opening.separator]) := by
    rw [layout, contentLines_finish legible.single]
    simp [openingLine, finish]
  rw [written]
  refine ⟨legible.singleLine_openingLine standard, fun number => ?_⟩
  rcases legible.exists_opening standard number with ⟨opening, opens, separator, mediaType, indent⟩
  refine ⟨_, accepts.opening _ _ (legible.role_openingLine regular standard number) opens, ?_⟩
  have unescaped : ∀ text ∈ Text.innerLines draft.body.reverse, text.isBlank = true ∨
      ∃ source, text = unescape opening.separator source := by
    rw [separator]
    exact fun text listed => legible.unescaped text (within text listed)
  rw [← separator] at triple ⊢
  refine (yields_content accepts triple indent
    (fun text listed => legible.single text (within text listed)) unescaped []).append ?_
  rintro _ rfl
  refine Yields.single (Text.singleLine_append.mpr ⟨Text.singleLine_margin _, triple.singleLine⟩)
    fun closing => ?_
  have closed (body : List Text) := add_closing triple body Layout.argumentIndent closing
  refine ⟨_, accepts.content _ _ rfl, _, congrArg Draft.isOpen (closed _), ?_, rfl⟩
  rw [closed]
  simp [finish, DocString.erased, separator, mediaType]

end DocString.Draft

end Gherkin
