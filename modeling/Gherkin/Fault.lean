import Gherkin.Location

namespace Gherkin

/-!
# Faults

Reading never stops at a fault: it is noted with its location and reading goes
on.  A report gathers what was noted for one document, in the order of
detection.  A document is handed out only if its report is empty; otherwise
the rejection carries every fault, and so at least one.
-/

/-- Why something in a feature file is faulty. -/
inductive Cause
  /-- The line is none of the `expected` alternatives at its place. -/
  | mismatch (expected : List Text) (found : Text)
  /-- The input ended where one of the `expected` alternatives had to follow. -/
  | endOfInput (expected : List Text)
  /-- A table row has another number of cells than the header. -/
  | unevenRow
  /-- The language directive names a language that is not in the table. -/
  | unknownLanguage (code : Text)
  /-- A tag has whitespace within its name. -/
  | spacedTag
deriving DecidableEq

namespace Cause

/-- Alternatives as a list for the reader. -/
def alternatives (expected : List Text) : Text :=
  ", ".toList.intercalate expected

/-- The wording of a cause. -/
def message : Cause → Text
  | mismatch expected found =>
    "expected: ".toList ++ alternatives expected ++ ", got '".toList ++ found ++ "'".toList
  | endOfInput expected =>
    "unexpected end of file, expected: ".toList ++ alternatives expected
  | unevenRow => "inconsistent cell count within the table".toList
  | unknownLanguage code => "Language not supported: ".toList ++ code
  | spacedTag => "A tag may not contain whitespace".toList

end Cause

/-- A cause and the place where it was noticed. -/
structure Fault where
  cause : Cause
  location : Location
deriving DecidableEq

/-- A fault in the form `uri:line:column: message`. -/
def Fault.display (uri : Text) (fault : Fault) : Text :=
  uri ++ [':'] ++ Text.ofNat fault.location.line ++ [':'] ++
    Text.ofNat fault.location.column ++ ": ".toList ++ fault.cause.message

/-- All faults of a document that has at least one. -/
structure Rejection where
  uri : Text
  faults : List Fault
  faults_ne_nil : faults ≠ []

/-- Every fault on a line of its own. -/
def Rejection.message (rejection : Rejection) : Text :=
  ['\n'].intercalate (rejection.faults.map (Fault.display rejection.uri))

/-- The faults noted so far for the document at `uri`. -/
structure Report where
  uri : Text
  faults : List Fault

namespace Report

/-- A report without faults. -/
def empty (uri : Text) : Report :=
  ⟨uri, []⟩

/-- Note further faults behind those already noted. -/
def add (report : Report) (found : List Fault) : Report :=
  { report with faults := report.faults ++ found }

/-- Hand out `value` if nothing was noted, and every fault otherwise. -/
def outcome {α : Type} (report : Report) (value : α) : Except Rejection α :=
  if faulty : report.faults = [] then .ok value
  else .error ⟨report.uri, report.faults, faulty⟩

end Report

end Gherkin
