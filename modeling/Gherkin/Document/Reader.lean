import Gherkin.Document.Basic
import Gherkin.Language.Directive

namespace Gherkin
namespace Document

/-!
# Reading documents

A document is read line by line, and every line is decided on by what was read
before it.  The rules, in the order in which they apply:

1. a language directive on line 1 chooses the active language;
2. while a doc-string is open, it takes the line;
3. comments are collected, and tags wait for the line that claims them;
4. a keyword line opens its construct, which claims the pending tags;
5. any other line goes to the construct that was opened last.

A line that fits nowhere is a mismatch.  It is noted where it is found out, by
the reader of the construct that the line came to, and reading goes on with what
the readers are then.
-/

/-- How far a document was read. -/
inductive Phase
  | beforeFeature
  | header
  | background
  | scenarios
deriving DecidableEq

/-- The line that opened the feature, and the tags in front of it. -/
structure Header extends Heading where
  tags : List Tag

/-- A document of which some lines were read.  The last comment comes first, and so does
the last scenario. -/
structure Reader where
  language : Language
  phase : Phase
  lastLine : Nat
  comments : List Comment
  pending : PendingTags
  header : Option Header
  description : Description.Draft
  background : Option Background.Reader
  scenarios : List Scenario.Reader

/-- The code of the language directive on a line, which has to be line 1. -/
def directive? (line : Line) : Option Text :=
  if line.number = 1 then Language.directive? line.text else none

namespace Reader

/-- The document of which no line was read, in the given language. -/
def start (language : Language) : Reader where
  language := language
  phase := .beforeFeature
  lastLine := 0
  comments := []
  pending := none
  header := none
  description := []
  background := none
  scenarios := []

/-- The document of which no line was read. -/
def empty (settings : Settings) : Reader :=
  start settings.languages.defaultLanguage

/-- Whether the next line is one of an open doc-string. -/
def inDocString (reader : Reader) : Bool :=
  match reader.phase with
  | .beforeFeature | .header => false
  | .background => reader.background.any Background.Reader.inDocString
  | .scenarios => reader.scenarios.head?.any Scenario.Reader.inDocString

/-- What may stand on the next line if no tags are pending. -/
def expected (reader : Reader) : List Text :=
  match reader.phase with
  | .beforeFeature => Expected.beforeFeature
  | .header => Expected.inFeatureHeader
  | .background =>
    (reader.background.map Background.Reader.expected).getD Expected.inFeatureHeader
  | .scenarios =>
    (reader.scenarios.head?.map Scenario.Reader.expected).getD Expected.inFeatureHeader

/-- What may stand on the next line if tags are pending. -/
def expectedAfterTags (reader : Reader) : List Text :=
  if reader.header.isSome then Expected.afterTags else Expected.afterFeatureTags

/-- Hand over the pending tags, which are no longer pending then. -/
def takeTags (reader : Reader) : List Tag × Reader :=
  (reader.pending.tags, { reader with pending := none })

/-- Open the feature, which has to come first. -/
def openFeature (dialect : Dialect) (reader : Reader) (line : Line) : Reader × List Fault :=
  let taken := reader.takeTags
  if reader.phase = .beforeFeature then
    let header : Header := ⟨.onLine dialect.language line, taken.1⟩
    ({ taken.2 with header := some header, phase := .header }, [])
  else (taken.2, [line.mismatch reader.expected])

/-- Open the background, which has to come before the scenarios. -/
def openBackground (dialect : Dialect) (reader : Reader) (line : Line) : Reader × List Fault :=
  if reader.phase = .header then
    ({ reader with background := some (.onLine dialect line), phase := .background }, [])
  else (reader, [line.mismatch reader.expected])

/-- Open a further scenario. -/
def openScenario (dialect : Dialect) (reader : Reader) (line : Line) : Reader × List Fault :=
  let taken := reader.takeTags
  if reader.phase = .beforeFeature then (taken.2, [line.mismatch reader.expected])
  else
    let scenario := Scenario.Reader.onLine dialect taken.1 line
    ({ taken.2 with scenarios := scenario :: reader.scenarios, phase := .scenarios }, [])

/-- Open an examples block of the last scenario.  The tags are claimed before it is known
whether there is a scenario that can have examples. -/
def openExamples (dialect : Dialect) (reader : Reader) (line : Line) : Reader × List Fault :=
  let taken := reader.takeTags
  if reader.phase = .scenarios then
    match reader.scenarios with
    | scenario :: earlier =>
      let result := scenario.openExamples dialect taken.1 line
      ({ taken.2 with scenarios := result.1 :: earlier }, result.2)
    | [] => (taken.2, [])
  else (taken.2, [line.mismatch taken.2.expected])

/-- Read a line that opens none of these, as a line of the construct that was opened last. -/
def forward (dialect : Dialect) (reader : Reader) (line : Line) : Reader × List Fault :=
  match reader.phase with
  | .beforeFeature =>
    if line.isBlank then (reader, []) else (reader, [line.mismatch Expected.beforeFeature])
  | .header =>
    if (dialect.role line).isStep || dialect.isArgument line then
      (reader, [line.mismatch Expected.inFeatureHeader])
    else ({ reader with description := reader.description.add line }, [])
  | .background =>
    match reader.background with
    | some background =>
      let result := background.read dialect line
      ({ reader with background := some result.1 }, result.2)
    | none => (reader, [])
  | .scenarios =>
    match reader.scenarios with
    | scenario :: earlier =>
      let result := scenario.read dialect line
      ({ reader with scenarios := result.1 :: earlier }, result.2)
    | [] => (reader, [])

/-- Read a line by its role. -/
def dispatch (dialect : Dialect) (reader : Reader) (line : Line) : Reader × List Fault :=
  match dialect.role line with
  | .feature => reader.openFeature dialect line
  | .background => reader.openBackground dialect line
  | .scenario | .scenarioOutline => reader.openScenario dialect line
  | .examples => reader.openExamples dialect line
  | _ => reader.forward dialect line

/-- Read a line that is no language directive. -/
def place (dialect : Dialect) (reader : Reader) (line : Line) : Reader × List Fault :=
  let role := dialect.role line
  if reader.inDocString then reader.forward dialect line
  else if role = .comment then
    ({ reader with comments := Comment.onLine line :: reader.comments }, [])
  else if role = .tag then
    let result := reader.pending.add line
    ({ reader with pending := result.1 }, result.2)
  else if reader.pending.isSome && line.isBlank then (reader, [])
  else if reader.pending.isSome && !role.takesTags then
    (reader.takeTags.2, [line.mismatch reader.expectedAfterTags])
  else reader.dispatch dialect line

/-- Choose the active language by its code. -/
def chooseLanguage (settings : Settings) (reader : Reader) (code : Text) : Reader × List Fault :=
  match settings.languages.get? code with
  | some language => ({ reader with language := language }, [])
  | none => (reader, [⟨.unknownLanguage code, ⟨1, 1⟩⟩])

/-- Read a further line. -/
def read (settings : Settings) (reader : Reader) (line : Line) : Reader × List Fault :=
  let reader := { reader with lastLine := line.number }
  match directive? line with
  | some code => reader.chooseLanguage settings code
  | none => reader.place (settings.dialect reader.language) line

/-- Read further lines. -/
def readAll (settings : Settings) (reader : Reader) : List Line → Reader × List Fault
  | [] => (reader, [])
  | line :: rest =>
    let result := reader.read settings line
    let final := readAll settings result.1 rest
    (final.1, result.2 ++ final.2)

/-- The faults that consist in the input ending here. -/
def endFaults (reader : Reader) : List Fault :=
  let location := Location.endOfInput reader.lastLine
  (if reader.inDocString then [⟨.endOfInput Expected.docStringEnd, location⟩] else []) ++
    (if reader.pending.isSome then [⟨.endOfInput reader.expectedAfterTags, location⟩] else [])

/-- The document with the lines read so far. -/
def finish (uri : Text) (reader : Reader) : Document where
  uri := uri
  comments := reader.comments.reverse
  feature := reader.header.map fun header =>
    { toHeading := header.toHeading
      language := reader.language.code
      description := reader.description.finish
      tags := header.tags
      background := reader.background.map Background.Reader.finish
      scenarios := reader.scenarios.reverse.map Scenario.Reader.finish }

end Reader

end Document
end Gherkin
