import Gherkin.Fault
import Gherkin.Line

namespace Gherkin

/-!
# What may stand on a line

Each place of a feature file admits certain kinds of line.  The lists below
name them as they are shown when another line stands there.  A line that is none
of them is refused: it is a mismatch, noted where its text starts.
-/

namespace Expected

/-- Before the feature line. -/
def beforeFeature : List Text :=
  ["end-of-file", "language directive", "tag line", "feature line", "comment",
    "empty line"].map String.toList

/-- Between the feature line and the first background or scenario. -/
def inFeatureHeader : List Text :=
  ["end-of-file", "background line", "tag line", "scenario line", "rule line", "comment",
    "empty line", "description line"].map String.toList

/-- In a background or scenario that has no step yet. -/
def beforeSteps : List Text :=
  ["end-of-file", "step line", "tag line", "scenario line", "rule line", "comment",
    "empty line", "description line"].map String.toList

/-- Among the steps of a background or a plain scenario. -/
def inSteps : List Text :=
  ["end-of-file", "table row", "doc-string separator", "step line", "tag line",
    "scenario line", "rule line", "comment", "empty line"].map String.toList

/-- Among the steps of a scenario outline. -/
def inOutlineSteps : List Text :=
  ["end-of-file", "table row", "doc-string separator", "step line", "tag line",
    "examples line", "scenario line", "rule line", "comment", "empty line"].map String.toList

/-- In an examples block. -/
def inExamples : List Text :=
  ["end-of-file", "table row", "tag line", "examples line", "scenario line", "rule line",
    "comment", "empty line"].map String.toList

/-- After tags that stand before the feature line. -/
def afterFeatureTags : List Text :=
  ["tag line", "feature line", "comment", "empty line"].map String.toList

/-- After tags that stand behind the feature line. -/
def afterTags : List Text :=
  ["tag line", "scenario line", "examples line", "comment", "empty line"].map String.toList

/-- In a doc-string that was not closed. -/
def docStringEnd : List Text :=
  ["doc-string separator", "other line"].map String.toList

end Expected

/-- The fault that the line is none of the expected alternatives. -/
def Line.mismatch (line : Line) (expected : List Text) : Fault :=
  ⟨.mismatch expected line.trimmed, line.location⟩

end Gherkin
