import Gherkin.Text.Basic

namespace Gherkin

/-!
# JSON values

A value of the JSON data format.  The members of an object keep the order in
which they are given, since that is the order in which they are written.
Numbers are integers, the only ones that locations need.
-/

/-- A JSON value. -/
inductive Json
  | null
  | bool (value : Bool)
  | number (value : Int)
  | string (value : Text)
  | array (items : List Json)
  | object (members : List (Text × Json))
deriving Inhabited

namespace Json

/-- The value of the first member with the given key. -/
def member? (key : Text) (members : List (Text × Json)) : Option Json :=
  (members.find? fun entry => decide (entry.1 = key)).map Prod.snd

/-- A list of texts as a value. -/
def ofTexts (texts : List Text) : Json :=
  array (texts.map string)

end Json

end Gherkin
