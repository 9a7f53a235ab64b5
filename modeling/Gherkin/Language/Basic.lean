import Gherkin.Text.Basic

namespace Gherkin

/-!
# Languages

A language lists the words that introduce each kind of line in one natural
language.  Several words may mean the same; their order matters, because the
first one that fits a line is taken even where a later one fits more of it.

Words for headings are listed without the colon behind them.  Words for steps
are listed with the separator that belongs to them: usually a space, and
nothing in languages that are written without spaces.
-/

/-- The words of one natural language. -/
structure Language where
  /-- The short name by which a language directive asks for the language. -/
  code : Text
  /-- The English name. -/
  name : Text
  /-- The name in the language itself. -/
  native : Text
  ands : List Text
  backgrounds : List Text
  buts : List Text
  examples : List Text
  features : List Text
  givens : List Text
  rules : List Text
  scenarios : List Text
  outlines : List Text
  thens : List Text
  whens : List Text
deriving DecidableEq

end Gherkin
