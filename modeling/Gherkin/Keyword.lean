import Gherkin.Language.Basic
import Gherkin.Line

namespace Gherkin

/-!
# What a line starts with

A line is classified by the keyword that its trimmed text starts with.  The
keywords of the active language are tried first, in a fixed order of roles and
within a role in the order of the language.  Behind them come the marks and
the English words that are understood in every language.  The first keyword
that opens the line decides; a line that none opens is plain.
-/

/-- The kinds of step: what is given, what is done, what comes of it, a step that
carries on the one before, a step that is set against it, and a list item. -/
inductive StepKind
  | context
  | action
  | outcome
  | conjunction
  | contrast
  | bullet
deriving DecidableEq

/-- What a line is, going by its first word or mark. -/
inductive Role
  | feature
  | background
  | scenario
  | scenarioOutline
  | examples
  | step (kind : StepKind)
  | tableRow
  | comment
  | tag
  | plain
deriving DecidableEq

namespace Role

/-- Whether a line of this role starts a step. -/
def isStep : Role → Bool
  | step _ => true
  | _ => false

/-- Whether the keyword of this role stands before a colon. -/
def takesColon : Role → Bool
  | feature | background | scenario | scenarioOutline | examples => true
  | _ => false

/-- Whether tags may stand before a line of this role. -/
def takesTags : Role → Bool
  | feature | scenario | scenarioOutline | examples => true
  | _ => false

end Role

namespace Language

/-- The words of a language for a role. -/
def words (language : Language) : Role → List Text
  | .feature => language.features
  | .background => language.backgrounds
  | .scenarioOutline => language.outlines
  | .scenario => language.scenarios
  | .examples => language.examples
  | .step .context => language.givens
  | .step .action => language.whens
  | .step .outcome => language.thens
  | .step .conjunction => language.ands
  | .step .contrast => language.buts
  | _ => []

end Language

/-- A role together with the keyword that stands for it, without the colon behind the
keyword of a heading.  The keyword of a plain line is empty. -/
structure Classification where
  role : Role
  keyword : Text
deriving DecidableEq

namespace Classification

/-- The classification of a line that starts with no keyword. -/
def plain : Classification :=
  ⟨.plain, []⟩

/-- The roles for which languages have words, in the order in which they are tried. -/
def spokenRoles : List Role :=
  [.feature, .background, .scenarioOutline, .scenario, .examples, .step .context,
    .step .action, .step .outcome, .step .conjunction, .step .contrast]

/-- The marks and English words that are understood in every language. -/
def common : List Classification :=
  [⟨.step .bullet, "* ".toList⟩, ⟨.tag, "@".toList⟩, ⟨.comment, "#".toList⟩,
    ⟨.tableRow, "|".toList⟩, ⟨.step .conjunction, "And ".toList⟩,
    ⟨.step .contrast, "But ".toList⟩, ⟨.examples, "Examples".toList⟩,
    ⟨.background, "Background".toList⟩]

/-- Everything that can open a line in the given language, in the order in which it
is tried. -/
def candidates (language : Language) : List Classification :=
  (spokenRoles.flatMap fun role => (language.words role).map fun word => ⟨role, word⟩) ++ common

/-- Whether the keyword opens a line with the given trimmed text.  The keyword of a
heading needs its colon.  The keyword of a step may stand alone on its line, and has
then lost its separator to trimming.  An empty keyword opens nothing. -/
def opens (candidate : Classification) (trimmed : Text) : Bool :=
  if candidate.keyword.isEmpty then false
  else if candidate.role.takesColon then (candidate.keyword ++ [':']).isPrefixOf trimmed
  else
    candidate.keyword.isPrefixOf trimmed ||
      (candidate.role.isStep &&
        decide (candidate.keyword.trimEnd.length < candidate.keyword.length) &&
        decide (trimmed = candidate.keyword.trimEnd))

/-- What is left of a trimmed text behind the keyword and its colon.  A text that
does not start with the keyword is kept. -/
def strip (classification : Classification) (trimmed : Text) : Text :=
  let rest :=
    ((classification.keyword.isPrefixOf? trimmed).or
      (classification.keyword.trimEnd.isPrefixOf? trimmed)).getD trimmed
  let rest :=
    if classification.role.takesColon then ([':'].isPrefixOf? rest).getD rest else rest
  Text.trim rest

/-- The classification of a text in a language. -/
def ofText (language : Language) (text : Text) : Classification :=
  if text.isBlank then plain
  else ((candidates language).find? fun candidate => candidate.opens text.trim).getD plain

end Classification

namespace Line

/-- The classification of a line in a language. -/
def classify (line : Line) (language : Language) : Classification :=
  .ofText language line.text

/-- The trimmed text of a line behind its keyword. -/
def textAfter (line : Line) (classification : Classification) : Text :=
  classification.strip line.trimmed

end Line

end Gherkin
