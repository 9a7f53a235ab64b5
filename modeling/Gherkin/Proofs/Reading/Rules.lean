import Gherkin.Document.Reader

namespace Gherkin

/-!
# The rules of reading

The readers keep what they have read together with how far they are, and decide on a
line by the latter.  The drafts below keep only what was read and decide by that: the
steps have begun if there is a step, and a line goes to the last scenario if there is
one.  A line is either taken up, with the faults that were found inside it, or it is
refused with what may stand in its place, and then nothing is said about the draft.

So the rules are shorter than the readers, and what is true of a whole run is proved of
the rules first.  It is true of the readers as well because they follow the rules, as
`Gherkin.Proofs.Reading.Phases` shows.
-/

/-- The result of reading one line: the construct that takes it up, with the faults
found inside the line, or the alternatives of which the line is none. -/
abbrev Reading (α : Type) := Except (List Text) (α × List Fault)

namespace Reading

/-- Read a line as part of an enclosing construct. -/
def within {α β : Type} (enclose : α → β) (reading : Reading α) : Reading β :=
  reading.map fun result => (enclose result.1, result.2)

/-- A refused line leaves the construct as it was and is a fault where its text starts. -/
def settle {α : Type} (previous : α) (line : Line) : Reading α → α × List Fault
  | .ok result => result
  | .error expected => (previous, [⟨.mismatch expected line.trimmed, line.location⟩])

end Reading

/-! ## Steps -/

namespace Step.Sequence

/-- The sequence with the step that a line starts, if it starts one. -/
def start? (dialect : Dialect) (steps : Sequence) (line : Line) : Option Sequence :=
  (Draft.onLine? dialect line).map fun step => step :: steps

/-- Read a line that starts no step.  There is no result if it belongs to no step
either. -/
def continue? (dialect : Dialect) (steps : Sequence) (line : Line) :
    Option (Sequence × List Fault) :=
  match steps with
  | step :: earlier =>
    if step.accepts dialect line then
      let result := step.add dialect line
      some (result.1 :: earlier, result.2)
    else if line.isBlank then some (steps, [])
    else none
  | [] => if line.isBlank then some ([], []) else none

end Step.Sequence

namespace Body.Draft

/-- Offer a line that starts no step to the last step. -/
def continue? (dialect : Dialect) (draft : Body.Draft) (line : Line) :
    Option (Body.Draft × List Fault) :=
  (draft.steps.continue? dialect line).map fun result =>
    ({ draft with steps := result.1 }, result.2)

/-- Read a further line.  There is no result if the line has no place in the body. -/
def add (dialect : Dialect) (draft : Body.Draft) (line : Line) :
    Option (Body.Draft × List Fault) :=
  if draft.inDocString then draft.continue? dialect line
  else
    match draft.steps.start? dialect line with
    | some steps => some ({ draft with steps := steps }, [])
    | none =>
      if !draft.steps.isEmpty then draft.continue? dialect line
      else if dialect.isArgument line then none
      else some ({ draft with description := draft.description.add line }, [])

end Body.Draft

/-! ## Constructs -/

/-- A background of which the heading was read. -/
structure Background.Draft where
  heading : Heading
  body : Body.Draft

namespace Background.Draft

/-- The background that a line opens. -/
def onLine (dialect : Dialect) (line : Line) : Background.Draft :=
  ⟨.onLine dialect.language line, .empty⟩

/-- Whether the next line is one of an open doc-string. -/
def inDocString (draft : Background.Draft) : Bool :=
  draft.body.inDocString

/-- What may stand on the next line. -/
def expected (draft : Background.Draft) : List Text :=
  if draft.body.steps.isEmpty then Expected.beforeSteps else Expected.inSteps

/-- Read a further line. -/
def add (dialect : Dialect) (draft : Background.Draft) (line : Line) :
    Reading Background.Draft :=
  match draft.body.add dialect line with
  | some result => .ok ({ draft with body := result.1 }, result.2)
  | none => .error draft.expected

/-- The background with the lines read so far. -/
def finish (draft : Background.Draft) : Background where
  toHeading := draft.heading
  description := draft.body.description.finish
  steps := draft.body.steps.finish

end Background.Draft

/-- An examples block of which the heading was read. -/
structure Examples.Draft where
  heading : Heading
  tags : List Tag
  description : Description.Draft
  table : Option Table.Draft

namespace Examples.Draft

/-- The examples block that a line opens, with the tags in front of it. -/
def onLine (dialect : Dialect) (tags : List Tag) (line : Line) : Examples.Draft :=
  ⟨.onLine dialect.language line, tags, [], none⟩

/-- Read a further line. -/
def add (dialect : Dialect) (draft : Examples.Draft) (line : Line) : Reading Examples.Draft :=
  let role := dialect.role line
  if role = .tableRow then
    let result := Table.Draft.add draft.table line
    .ok ({ draft with table := some result.1 }, result.2)
  else if draft.table.isSome then
    if line.isBlank then .ok (draft, []) else .error Expected.inExamples
  else if role.isStep then .error Expected.inExamples
  else .ok ({ draft with description := draft.description.add line }, [])

/-- The examples block with the lines read so far. -/
def finish (draft : Examples.Draft) : Examples where
  toHeading := draft.heading
  description := draft.description.finish
  tags := draft.tags
  table := draft.table.map Table.Draft.finish

end Examples.Draft

/-- A scenario of which the heading was read.  The last examples block comes first. -/
structure Scenario.Draft where
  heading : Heading
  tags : List Tag
  isOutline : Bool
  body : Body.Draft
  examples : List Examples.Draft

namespace Scenario.Draft

/-- The scenario that a line opens, with the tags in front of it. -/
def onLine (dialect : Dialect) (tags : List Tag) (line : Line) : Scenario.Draft where
  heading := .onLine dialect.language line
  tags := tags
  isOutline := decide (dialect.role line = .scenarioOutline)
  body := .empty
  examples := []

/-- Whether the next line is one of an open doc-string. -/
def inDocString (draft : Scenario.Draft) : Bool :=
  draft.body.inDocString

/-- What may stand on the next line. -/
def expected (draft : Scenario.Draft) : List Text :=
  if !draft.examples.isEmpty then Expected.inExamples
  else if draft.body.steps.isEmpty then Expected.beforeSteps
  else if draft.isOutline then Expected.inOutlineSteps
  else Expected.inSteps

/-- Open an examples block, which only an outline can have. -/
def addExamples (dialect : Dialect) (draft : Scenario.Draft) (tags : List Tag) (line : Line) :
    Reading Scenario.Draft :=
  if draft.isOutline then
    .ok ({ draft with examples := .onLine dialect tags line :: draft.examples }, [])
  else .error draft.expected

/-- Read a further line that opens no examples block. -/
def add (dialect : Dialect) (draft : Scenario.Draft) (line : Line) : Reading Scenario.Draft :=
  match draft.inDocString, draft.examples with
  | false, block :: earlier =>
    (block.add dialect line).within fun block => { draft with examples := block :: earlier }
  | _, _ =>
    match draft.body.add dialect line with
    | some result => .ok ({ draft with body := result.1 }, result.2)
    | none => .error draft.expected

/-- The scenario with the lines read so far. -/
def finish (draft : Scenario.Draft) : Scenario where
  toHeading := draft.heading
  description := draft.body.description.finish
  tags := draft.tags
  steps := draft.body.steps.finish
  examples := draft.examples.reverse.map Examples.Draft.finish

end Scenario.Draft

/-- A feature of which the heading was read.  The last scenario comes first. -/
structure Feature.Draft where
  heading : Heading
  tags : List Tag
  description : Description.Draft
  background : Option Background.Draft
  scenarios : List Scenario.Draft

namespace Feature.Draft

/-- The feature that a line opens, with the tags in front of it. -/
def onLine (dialect : Dialect) (tags : List Tag) (line : Line) : Feature.Draft :=
  ⟨.onLine dialect.language line, tags, [], none, []⟩

/-- Whether neither a background nor a scenario was opened yet. -/
def inHeader (draft : Feature.Draft) : Bool :=
  draft.background.isNone && draft.scenarios.isEmpty

/-- Whether the next line is one of an open doc-string. -/
def inDocString (draft : Feature.Draft) : Bool :=
  match draft.scenarios with
  | scenario :: _ => scenario.inDocString
  | [] => draft.background.any Background.Draft.inDocString

/-- What may stand on the next line. -/
def expected (draft : Feature.Draft) : List Text :=
  match draft.scenarios, draft.background with
  | scenario :: _, _ => scenario.expected
  | [], some background => background.expected
  | [], none => Expected.inFeatureHeader

/-- Open the background, which has to come before the scenarios. -/
def addBackground (dialect : Dialect) (draft : Feature.Draft) (line : Line) :
    Reading Feature.Draft :=
  if draft.inHeader then .ok ({ draft with background := some (.onLine dialect line) }, [])
  else .error draft.expected

/-- Open a further scenario. -/
def addScenario (dialect : Dialect) (draft : Feature.Draft) (tags : List Tag) (line : Line) :
    Reading Feature.Draft :=
  .ok ({ draft with scenarios := .onLine dialect tags line :: draft.scenarios }, [])

/-- Open an examples block of the last scenario. -/
def addExamples (dialect : Dialect) (draft : Feature.Draft) (tags : List Tag) (line : Line) :
    Reading Feature.Draft :=
  match draft.scenarios with
  | scenario :: earlier =>
    (scenario.addExamples dialect tags line).within fun scenario =>
      { draft with scenarios := scenario :: earlier }
  | [] => .error draft.expected

/-- Read a further line that opens none of these constructs. -/
def add (dialect : Dialect) (draft : Feature.Draft) (line : Line) : Reading Feature.Draft :=
  match draft.scenarios, draft.background with
  | scenario :: earlier, _ =>
    (scenario.add dialect line).within fun scenario =>
      { draft with scenarios := scenario :: earlier }
  | [], some background =>
    (background.add dialect line).within fun background =>
      { draft with background := some background }
  | [], none =>
    if (dialect.role line).isStep || dialect.isArgument line then
      .error Expected.inFeatureHeader
    else .ok ({ draft with description := draft.description.add line }, [])

/-- The feature with the lines read so far, in the language with the given code. -/
def finish (language : Text) (draft : Feature.Draft) : Feature where
  toHeading := draft.heading
  language := language
  description := draft.description.finish
  tags := draft.tags
  background := draft.background.map Background.Draft.finish
  scenarios := draft.scenarios.reverse.map Scenario.Draft.finish

end Feature.Draft

/-! ## Documents -/

namespace Document

/-- A document of which some lines were read.  The last comment comes first. -/
structure Draft where
  language : Language
  lastLine : Nat
  comments : List Comment
  pending : PendingTags
  feature : Option Feature.Draft

namespace Draft

/-- The document of which no line was read. -/
def empty (settings : Settings) : Draft :=
  ⟨settings.languages.defaultLanguage, 0, [], none, none⟩

/-- Whether the next line is one of an open doc-string. -/
def inDocString (draft : Draft) : Bool :=
  draft.feature.any Feature.Draft.inDocString

/-- What may stand on the next line if no tags are pending. -/
def expected (draft : Draft) : List Text :=
  (draft.feature.map Feature.Draft.expected).getD Expected.beforeFeature

/-- What may stand on the next line if tags are pending. -/
def expectedAfterTags (draft : Draft) : List Text :=
  if draft.feature.isSome then Expected.afterTags else Expected.afterFeatureTags

/-- Put the feature in place, whose opening or last line claimed the pending tags. -/
def withFeature (draft : Draft) (feature : Feature.Draft) : Draft :=
  { draft with feature := some feature, pending := none }

/-- Read a line that is neither a comment nor a tag line, or is one of an open
doc-string. -/
def addToFeature (dialect : Dialect) (draft : Draft) (line : Line) : Reading Draft :=
  match draft.feature with
  | some feature =>
    (feature.add dialect line).within fun feature => { draft with feature := some feature }
  | none => if line.isBlank then .ok (draft, []) else .error draft.expected

/-- Read a line that opens a construct. -/
def openConstruct (dialect : Dialect) (draft : Draft) (line : Line) : Reading Draft :=
  let tags := draft.pending.tags
  match dialect.role line, draft.feature with
  | .feature, none => .ok (draft.withFeature (.onLine dialect tags line), [])
  | .background, some feature => (feature.addBackground dialect line).within draft.withFeature
  | .scenario, some feature | .scenarioOutline, some feature =>
    (feature.addScenario dialect tags line).within draft.withFeature
  | .examples, some feature => (feature.addExamples dialect tags line).within draft.withFeature
  | _, _ => .error draft.expected

/-- Read a line that is no language directive. -/
def place (dialect : Dialect) (draft : Draft) (line : Line) : Reading Draft :=
  let role := dialect.role line
  if draft.inDocString then draft.addToFeature dialect line
  else if role = .comment then
    .ok ({ draft with comments := Comment.onLine line :: draft.comments }, [])
  else if role = .tag then
    let result := draft.pending.add line
    .ok ({ draft with pending := result.1 }, result.2)
  else if draft.pending.isSome && line.isBlank then .ok (draft, [])
  else if draft.pending.isSome && !role.takesTags then .error draft.expectedAfterTags
  else if role.takesColon then draft.openConstruct dialect line
  else draft.addToFeature dialect line

/-- Choose the active language by its code. -/
def chooseLanguage (settings : Settings) (draft : Draft) (code : Text) : Draft × List Fault :=
  match settings.languages.get? code with
  | some language => ({ draft with language := language }, [])
  | none => (draft, [⟨.unknownLanguage code, ⟨1, 1⟩⟩])

/-- Read a further line. -/
def add (settings : Settings) (draft : Draft) (line : Line) : Draft × List Fault :=
  let draft := { draft with lastLine := line.number }
  match directive? line with
  | some code => draft.chooseLanguage settings code
  | none =>
    (draft.place (settings.dialect draft.language) line).settle
      { draft with pending := none } line

/-- Read further lines. -/
def addAll (settings : Settings) (draft : Draft) : List Line → Draft × List Fault
  | [] => (draft, [])
  | line :: rest =>
    let result := draft.add settings line
    let final := addAll settings result.1 rest
    (final.1, result.2 ++ final.2)

/-- The faults that consist in the input ending here. -/
def endFaults (draft : Draft) : List Fault :=
  let location := Location.endOfInput draft.lastLine
  (if draft.inDocString then [⟨.endOfInput Expected.docStringEnd, location⟩] else []) ++
    (if draft.pending.isSome then [⟨.endOfInput draft.expectedAfterTags, location⟩] else [])

/-- The document with the lines read so far. -/
def finish (uri : Text) (draft : Draft) : Document where
  uri := uri
  comments := draft.comments.reverse
  feature := draft.feature.map (Feature.Draft.finish draft.language.code)

end Draft

end Document

end Gherkin
