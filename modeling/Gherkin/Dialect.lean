import Gherkin.DocString.Basic
import Gherkin.Keyword
import Gherkin.Language.Table

namespace Gherkin

/-!
# Dialects and settings

A dialect is what decides how a single line is read: the active language and
the doc-string separators.  The settings of a reader are the languages that a
document can choose from and the separators.
-/

/-- The active language and the doc-string separators. -/
structure Dialect where
  language : Language
  separators : Separators

namespace Dialect

/-- The role of a line. -/
def role (dialect : Dialect) (line : Line) : Role :=
  (line.classify dialect.language).role

/-- Whether a line starts with a doc-string separator. -/
def isSeparator (dialect : Dialect) (line : Line) : Bool :=
  (dialect.separators.matching? line.trimmed).isSome

/-- Whether a line can only belong to an argument of a step. -/
def isArgument (dialect : Dialect) (line : Line) : Bool :=
  decide (dialect.role line = .tableRow) || dialect.isSeparator line

end Dialect

/-- What a reader has to know besides its input. -/
structure Settings where
  languages : LanguageTable
  separators : Separators

namespace Settings

/-- The languages that come with the library and the standard separators. -/
def standard : Settings :=
  ⟨.builtin, .standard⟩

/-- The dialect with the given language. -/
def dialect (settings : Settings) (language : Language) : Dialect :=
  ⟨language, settings.separators⟩

end Settings

end Gherkin
