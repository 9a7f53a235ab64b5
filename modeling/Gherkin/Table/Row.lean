import Gherkin.Line
import Gherkin.Table.Basic

namespace Gherkin

/-!
# Reading a table row

A row is read in one pass.  Its cells lie between bars; what stands before the
first bar and behind the last one is dropped.  In a cell a backslash escapes
the next character: before a bar or a backslash it stands for that character,
before an `n` it stands for a newline, and elsewhere it stands for itself.  An
escaped bar ends no cell.

Whitespace around the text of a cell is dropped, except where an escape stands
for it.  So the cell in progress sets whitespace aside until something follows.
-/

/-- A cell in progress.  Texts are kept in reverse: the last character read comes first. -/
inductive CellDraft
  /-- Only whitespace was read so far. -/
  | blank
  /-- The text of the cell starts at offset `start`; behind the text that is `kept`
  there may be whitespace, which is set aside. -/
  | text (start : Nat) (kept aside : Text)

namespace CellDraft

/-- Take up a character that stays in the cell whatever it is. -/
def keep (offset : Nat) (character : Char) : CellDraft → CellDraft
  | blank => text offset [character] []
  | text start kept aside => text start (character :: (aside ++ kept)) []

/-- Take up a character as it is written, which is dropped if it is whitespace around
the text of the cell. -/
def add (offset : Nat) (character : Char) (draft : CellDraft) : CellDraft :=
  if Text.isSpace character then
    match draft with
    | blank => blank
    | text start kept aside => text start kept (character :: aside)
  else draft.keep offset character

/-- The character for which a backslash and the given character stand together. -/
def escaped? (character : Char) : Option Char :=
  if character = '|' then some '|'
  else if character = '\\' then some '\\'
  else if character = 'n' then some '\n'
  else none

/-- Take up a backslash at `offset` and the character behind it. -/
def addEscape (offset : Nat) (character : Char) (draft : CellDraft) : CellDraft :=
  match escaped? character with
  | some meant => draft.keep offset meant
  | none => (draft.keep offset '\\').add (offset + 1) character

/-- The finished cell.  If it is blank, the bar that closes it gives its place. -/
def finish (line : Line) (closing : Nat) : CellDraft → Cell
  | blank => ⟨[], line.locationAt closing⟩
  | text start kept _ => ⟨kept.reverse, line.locationAt start⟩

end CellDraft

namespace Row

/-- The cells that are closed by a bar in the rest of a row, where `draft` is the cell in
progress and `offset` is that of the next character. -/
def cellsFrom (line : Line) (draft : CellDraft) (offset : Nat) : Text → List Cell
  | [] => []
  | first :: rest =>
    if first = '|' then
      draft.finish line offset :: cellsFrom line .blank (offset + 1) rest
    else if first = '\\' then
      match rest with
      | [] => []
      | second :: others =>
        cellsFrom line (draft.addEscape offset second) (offset + 2) others
    else cellsFrom line (draft.add offset first) (offset + 1) rest

/-- The offset of the first bar of a line, or of its first character that is not
whitespace if there is no bar. -/
def barOffset (line : Line) : Nat :=
  if line.text.contains '|' then (line.text.takeWhile (· != '|')).length else line.indent

/-- The location of a row's first bar. -/
def barLocation (line : Line) : Location :=
  line.locationAt (barOffset line)

/-- The cells of a line. -/
def cellsOnLine (line : Line) : List Cell :=
  match line.text.dropWhile (· != '|') with
  | [] => []
  | _ :: body => cellsFrom line .blank (barOffset line + 1) body

/-- The row on a line.  Its place is that of its first cell, and the bar if there is
no cell. -/
def onLine (line : Line) : Row where
  cells := cellsOnLine line
  location := ((cellsOnLine line).head?.map Cell.location).getD (barLocation line)

end Row

end Gherkin
