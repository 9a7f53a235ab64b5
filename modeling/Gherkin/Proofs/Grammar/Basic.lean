import Gherkin.Parse
import Gherkin.Proofs.Classification
import Gherkin.Proofs.Tag.Segments
import Mathlib

/-- A set of words over an alphabet, with the operations of regular expressions. -/
abbrev WordSet (Letter : Type) : Type :=
  Language Letter

namespace Gherkin

open scoped Computability

/-!
# The grammar of feature files

The grammar is a regular expression over items.  An item is a line outside
doc-strings, which counts by its kind alone, or a whole doc-string.  Blank lines
and comments outside doc-strings are trivial: they may stand anywhere and are
taken out before the grammar is asked.  Only tables go beyond kinds, because all
rows of a table have the same number of cells.
-/

/-- What a line counts as in the grammar. -/
inductive Kind
  | feature
  | background
  | scenario
  | scenarioOutline
  | examples
  | step
  | row
  | tag
  | comment
  | separator
  | blank
  | text
deriving DecidableEq

/-- The kind of a line.  A plain line is told by whether it starts with a doc-string
separator and whether it is blank. -/
def Dialect.kind (dialect : Dialect) (line : Line) : Kind :=
  match dialect.role line with
  | .feature => .feature
  | .background => .background
  | .scenario => .scenario
  | .scenarioOutline => .scenarioOutline
  | .examples => .examples
  | .step _ => .step
  | .tableRow => .row
  | .tag => .tag
  | .comment => .comment
  | .plain =>
    if dialect.isSeparator line then .separator else if line.isBlank then .blank else .text

namespace Dialect

variable {dialect : Dialect} {line : Line}

theorem kind_of_plain (role : dialect.role line = .plain) :
    dialect.kind line =
      if dialect.isSeparator line then .separator else if line.isBlank then .blank else .text := by
  simp only [kind, role]

/-- What a kind says about the role of a line, and about the line if it is plain. -/
def Shows (dialect : Dialect) (line : Line) : Kind → Prop
  | .feature => dialect.role line = .feature
  | .background => dialect.role line = .background
  | .scenario => dialect.role line = .scenario
  | .scenarioOutline => dialect.role line = .scenarioOutline
  | .examples => dialect.role line = .examples
  | .step => ∃ step, dialect.role line = .step step
  | .row => dialect.role line = .tableRow
  | .tag => dialect.role line = .tag
  | .comment => dialect.role line = .comment
  | .separator => dialect.role line = .plain ∧ dialect.isSeparator line = true
  | .blank => dialect.role line = .plain ∧ dialect.isSeparator line = false ∧ line.isBlank = true
  | .text => dialect.role line = .plain ∧ dialect.isSeparator line = false ∧ line.isBlank = false

theorem shows_of_kind {kind : Kind} (given : dialect.kind line = kind) : dialect.Shows line kind := by
  subst given
  cases role : dialect.role line with
  | plain =>
      cases marked : dialect.isSeparator line <;> cases white : line.isBlank <;>
        simp [Dialect.kind, Shows, role, marked, white]
  | _ => simp [Dialect.kind, Shows, role]

/-- A line that is no comment, tag or heading goes to the construct that reads on. -/
theorem routed_of_kind
    (inner : dialect.kind line = .blank ∨ dialect.kind line = .text ∨ dialect.kind line = .step ∨
      dialect.kind line = .row ∨ dialect.kind line = .separator) :
    dialect.role line ≠ .comment ∧ dialect.role line ≠ .tag ∧
      (dialect.role line).takesColon = false := by
  cases role : dialect.role line <;> simp_all [Dialect.kind, Role.takesColon]

theorem kind_of_isBlank (dialect : Dialect) (white : line.isBlank = true) :
    dialect.kind line = .blank := by
  rw [kind_of_plain (role_of_isBlank dialect white), isSeparator_of_isBlank white, white]
  rfl

end Dialect

namespace Grammar

/-- A line outside doc-strings, or a doc-string with its opening line, the lines of its
body and its closing line. -/
inductive Item
  | line (line : Line)
  | docString (opening : Line) (body : List Line) (closing : Line)

namespace Item

/-- The lines of an item. -/
def lines : Item → List Line
  | line only => [only]
  | docString opening body closing => opening :: body ++ [closing]

/-- Whether an item is neither a blank line nor a comment. -/
def isSignificant (dialect : Dialect) : Item → Bool
  | line only => decide (dialect.kind only ≠ .blank ∧ dialect.kind only ≠ .comment)
  | docString _ _ _ => true

end Item

/-- On the tag lines outside doc-strings, no at sign before the inline comment has whitespace
inside of what is behind it. -/
def Faultless (dialect : Dialect) (items : List Item) : Prop :=
  ∀ line, Item.line line ∈ items → dialect.kind line = .tag →
    ∀ segment ∈ Tag.segments line.text, ∀ character ∈ Text.trim segment.2,
      Text.isSpace character = false

variable (dialect : Dialect)

/-- One line of the given kind. -/
def one (kind : Kind) : WordSet Item :=
  { word | ∃ line, word = [.line line] ∧ dialect.kind line = kind }

/-- One table row with `count` cells. -/
def row (count : Nat) : WordSet Item :=
  { word | ∃ line, word = [.line line] ∧ dialect.kind line = .row ∧
    (Row.cellsOnLine line).length = count }

/-- One or more table rows, each with `count` cells. -/
def rows (count : Nat) : WordSet Item :=
  row dialect count * (row dialect count)∗

/-- A table: rows that all have as many cells as the first one. -/
def table : WordSet Item :=
  ⨆ count, rows dialect count

/-- A doc-string.  The opening line is a separator line, and its separator starts the
closing line and no line of the body. -/
def docString : WordSet Item :=
  { word | ∃ opening body closing separator, word = [.docString opening body closing] ∧
    dialect.kind opening = .separator ∧
    dialect.separators.matching? opening.trimmed = some separator ∧
    (∀ line ∈ body, line.startsWith separator = false) ∧ closing.startsWith separator = true }

/-- Steps, each with at most one argument. -/
def steps : WordSet Item :=
  (one dialect .step * (1 + table dialect + docString dialect))∗

/-- An examples block.  Separator lines stand for themselves in its description. -/
def examples : WordSet Item :=
  (one dialect .tag)∗ * one dialect .examples * (one dialect .text + one dialect .separator)∗ *
    (1 + table dialect)

/-- A scenario, or a scenario outline with its examples blocks. -/
def scenario : WordSet Item :=
  (one dialect .tag)∗ * one dialect .scenario * (one dialect .text)∗ * steps dialect +
    (one dialect .tag)∗ * one dialect .scenarioOutline * (one dialect .text)∗ * steps dialect *
      (examples dialect)∗

/-- What follows the feature line. -/
def header : WordSet Item :=
  (one dialect .text)∗ * (1 + one dialect .background * (one dialect .text)∗ * steps dialect) *
    (scenario dialect)∗

/-- A whole document, which may be empty. -/
def document : WordSet Item :=
  1 + (one dialect .tag)∗ * one dialect .feature * header dialect

end Grammar
end Gherkin
