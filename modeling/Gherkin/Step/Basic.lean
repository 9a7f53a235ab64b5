import Gherkin.DocString.Basic
import Gherkin.Keyword
import Gherkin.Table.Basic

namespace Gherkin

/-!
# Steps

A step has a keyword, a text and at most one argument, which is a table or a
doc-string.
-/

/-- What a step can take along with its text. -/
inductive Argument
  | table (table : Table)
  | docString (docString : DocString)
deriving DecidableEq

/-- A step.  The keyword is kept as the language lists it, with its separator. -/
structure Step where
  kind : StepKind
  keyword : Text
  text : Text
  argument : Option Argument
  location : Location
deriving DecidableEq

namespace Step

/-- The table of a step, if it has one. -/
def table? (step : Step) : Option Table :=
  match step.argument with
  | some (.table table) => some table
  | _ => none

/-- The doc-string of a step, if it has one. -/
def docString? (step : Step) : Option DocString :=
  match step.argument with
  | some (.docString docString) => some docString
  | _ => none

end Step

end Gherkin
