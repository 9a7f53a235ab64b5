import Gherkin.DocString.Basic
import Gherkin.Text.Lines

namespace Gherkin
namespace DocString

/-!
# Doc-strings in progress

The opening line gives the separator, the media type behind it and the
indentation.  Body lines lose at most that much indentation, so that relative
indentation survives; blank lines are kept as they are.  While the doc-string is
open every line belongs to it.  A line that starts with the separator closes it.
-/

/-- What the opening line of a doc-string says. -/
structure Opening where
  separator : Text
  mediaType : Option Text
  indent : Nat
  location : Location

namespace Opening

/-- The opening on a line, if it starts with a separator. -/
def onLine? (separators : Separators) (line : Line) : Option Opening :=
  (separators.matching? line.trimmed).map fun separator =>
    let mediaType := Text.trim (line.trimmed.drop separator.length)
    { separator := separator
      mediaType := if mediaType.isEmpty then none else some mediaType
      indent := line.indent
      location := line.location }

/-- A line of the body as it belongs to the content. -/
def bodyLine (opening : Opening) (text : Text) : Text :=
  if text.isBlank then text else unescape opening.separator (text.unindent opening.indent)

end Opening

/-- A doc-string of which the opening line was read.  The last body line read comes
first. -/
structure Draft where
  opening : Opening
  body : List Text
  isOpen : Bool

namespace Draft

/-- Read a further line.  Nothing is read behind the closing line. -/
def add (draft : Draft) (line : Line) : Draft :=
  if !draft.isOpen then draft
  else if line.startsWith draft.opening.separator then { draft with isOpen := false }
  else { draft with body := draft.opening.bodyLine line.text :: draft.body }

/-- Read a further line, or the opening line if there is no doc-string yet. -/
def extend (separators : Separators) (docString : Option Draft) (line : Line) :
    Option Draft :=
  match docString with
  | none => (Opening.onLine? separators line).map fun opening => ⟨opening, [], true⟩
  | some draft => some (draft.add line)

/-- The doc-string with the lines read so far.  Blank lines at its ends are dropped. -/
def finish (draft : Draft) : DocString where
  separator := draft.opening.separator
  content := Text.joinLines (Text.innerLines draft.body.reverse)
  mediaType := draft.opening.mediaType
  location := draft.opening.location

end Draft

/-- Whether a doc-string was opened and not yet closed. -/
def inProgress (docString : Option Draft) : Bool :=
  docString.any Draft.isOpen

end DocString
end Gherkin
