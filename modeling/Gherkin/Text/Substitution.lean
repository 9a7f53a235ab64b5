import Gherkin.Text.Basic

namespace Gherkin
namespace Text

/-!
# Substitution

`replaceAll` exchanges the occurrences of one text for another.  Occurrences
are taken from the left and do not overlap: after one was found, the search
goes on behind it, and nothing that was put in is searched again.
-/

/-- Exchange the occurrences of `old` behind the next `skip` characters.  Those
characters belong to an occurrence that was already exchanged, and are dropped. -/
def replaceFrom (old new : Text) : Nat → Text → Text
  | _, [] => []
  | skip + 1, _ :: rest => replaceFrom old new skip rest
  | 0, first :: rest =>
    if old.isPrefixOf (first :: rest) then
      new ++ replaceFrom old new (old.length - 1) rest
    else
      first :: replaceFrom old new 0 rest

/-- Exchange every occurrence of `old` for `new`, from the left and without
overlaps.  The empty text counts as occurring nowhere. -/
def replaceAll (old new text : Text) : Text :=
  if old.isEmpty then text else replaceFrom old new 0 text

end Text
end Gherkin
