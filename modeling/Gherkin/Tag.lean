import Gherkin.Fault
import Gherkin.Line

namespace Gherkin

/-!
# Tags

A tag line holds tags such as `@slow`.  Each `@` starts a tag, whose name
reaches to the next `@` and is trimmed.  An inline comment, a `#` behind
whitespace, ends the line early.  A name with whitespace inside is a fault and
gives no tag; an `@` without a name gives none either.

Tags are read before the construct to which they belong, and are pending until
a line claims them.
-/

/-- A tag by its name, without the `@` in front of it. -/
structure Tag where
  name : Text
  location : Location
deriving DecidableEq

namespace Tag

/-- A tag as it is written. -/
def marked (tag : Tag) : Text :=
  ['@'] ++ tag.name

/-- The text before its inline comment.  `afterSpace` tells whether whitespace stands
just before the text. -/
def beforeComment (afterSpace : Bool) : Text → Text
  | [] => []
  | first :: rest =>
    if afterSpace && first == '#' then []
    else first :: beforeComment (Text.isSpace first) rest

/-- Give each piece the offset of the `@` in front of it, of which the first one has
`offset` characters before it. -/
def placePieces (offset : Nat) : List Text → List (Nat × Text)
  | [] => []
  | piece :: rest => (offset, piece) :: placePieces (offset + 1 + piece.length) rest

/-- What follows each `@` of a tag line, with the offset of the `@`. -/
def pieces (text : Text) : List (Nat × Text) :=
  match (beforeComment false text).splitOn '@' with
  | [] => []
  | lead :: rest => placePieces lead.length rest

/-- The tags of a tag line. -/
def onLine (line : Line) : List Tag :=
  (pieces line.text).filterMap fun piece =>
    let name := Text.trim piece.2
    if name.isEmpty || name.any Text.isSpace then none
    else some ⟨name, line.locationAt piece.1⟩

/-- The faults of a tag line: one for each name that has whitespace inside. -/
def faultsOnLine (line : Line) : List Fault :=
  (pieces line.text).filterMap fun piece =>
    if (Text.trim piece.2).any Text.isSpace then some ⟨.spacedTag, line.locationAt piece.1⟩
    else none

end Tag

/-- Tags that wait for the construct to which they belong.  There are `none` if no tag
line was read since the last ones were claimed; a tag line without a proper tag leaves
an empty list pending. -/
abbrev PendingTags := Option (List Tag)

namespace PendingTags

/-- The pending tags themselves. -/
def tags (pending : PendingTags) : List Tag :=
  pending.getD []

/-- Read a further tag line. -/
def add (pending : PendingTags) (line : Line) : PendingTags × List Fault :=
  (some (pending.tags ++ Tag.onLine line), Tag.faultsOnLine line)

end PendingTags

end Gherkin
