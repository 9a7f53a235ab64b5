import Gherkin.Proofs.Reading.Run
import Gherkin.Proofs.Tag.Segments

namespace Gherkin

/-!
# Every line is accounted for

A line that is read while no doc-string is open leaves one node in the tree, or
none, going by its role and by whether it opens a doc-string.  Going through the
tree in document order gives these nodes back in the order of their lines, and
the same holds of comments and of tags.  So no accepted line is lost, none
counts twice, and no two change places.

Each layer of the reader appends to what it has: the statements below say what
a step appends, and a run then appends the sum.
-/

/-- A node of a document that stems from one line, with what the line gives to it. -/
inductive Node
  | feature (heading : Heading)
  | background (heading : Heading)
  | scenario (heading : Heading)
  | examples (heading : Heading)
  | step (kind : StepKind) (keyword text : Text) (location : Location)
  | row (row : Row)
  | docString (separator : Text) (mediaType : Option Text) (location : Location)
deriving DecidableEq

/-! ## The nodes and tags of a tree, in document order -/

def Argument.nodes : Argument → List Node
  | .table body => body.allRows.map Node.row
  | .docString body => [.docString body.separator body.mediaType body.location]

def Step.nodes (step : Step) : List Node :=
  .step step.kind step.keyword step.text step.location ::
    (step.argument.map Argument.nodes).getD []

def Background.nodes (background : Background) : List Node :=
  .background background.toHeading :: background.steps.flatMap Step.nodes

def Examples.nodes (examples : Examples) : List Node :=
  .examples examples.toHeading ::
    (examples.table.map fun table => table.allRows.map Node.row).getD []

def Scenario.nodes (scenario : Scenario) : List Node :=
  .scenario scenario.toHeading :: scenario.steps.flatMap Step.nodes ++
    scenario.examples.flatMap Examples.nodes

def Feature.nodes (feature : Feature) : List Node :=
  .feature feature.toHeading :: (feature.background.map Background.nodes).getD [] ++
    feature.scenarios.flatMap Scenario.nodes

def Document.nodes (document : Document) : List Node :=
  (document.feature.map Feature.nodes).getD []

def Scenario.allTags (scenario : Scenario) : List Tag :=
  scenario.tags ++ scenario.examples.flatMap Examples.tags

def Feature.allTags (feature : Feature) : List Tag :=
  feature.tags ++ feature.scenarios.flatMap Scenario.allTags

def Document.allTags (document : Document) : List Tag :=
  (document.feature.map Feature.allTags).getD []

/-! ## What a line stands for -/

/-- The doc-string that an opening line gives. -/
def DocString.Opening.node (opening : DocString.Opening) : Node :=
  .docString opening.separator opening.mediaType opening.location

namespace Line

/-- The node for which a line stands outside doc-strings, going by its role alone. -/
def roleNode? (dialect : Dialect) (line : Line) : Option Node :=
  let keyword := (line.classify dialect.language).keyword
  let text := line.textAfter (line.classify dialect.language)
  match dialect.role line with
  | .feature => some (.feature ⟨keyword, text, line.location⟩)
  | .background => some (.background ⟨keyword, text, line.location⟩)
  | .scenario | .scenarioOutline => some (.scenario ⟨keyword, text, line.location⟩)
  | .examples => some (.examples ⟨keyword, text, line.location⟩)
  | .step kind => some (.step kind keyword text line.location)
  | .tableRow => some (.row (.onLine line))
  | .comment | .tag | .plain => none

/-- The nodes for which a line stands outside doc-strings.  `opens` tells whether a
doc-string is open behind it. -/
def nodes (dialect : Dialect) (line : Line) (opens : Bool) : List Node :=
  (line.roleNode? dialect).toList ++
    if opens then
      ((DocString.Opening.onLine? dialect.separators line).map DocString.Opening.node).toList
    else []

/-- The comment on a line outside doc-strings, if it is a comment line. -/
def comments (dialect : Dialect) (line : Line) : List Comment :=
  if dialect.role line = .comment then [.onLine line] else []

/-- The tags on a line outside doc-strings, if it is a tag line: one for each at sign in front
of its inline comment that has a proper name behind it, where the at sign stands. -/
def tags (dialect : Dialect) (line : Line) : List Tag :=
  if dialect.role line = .tag then
    (Tag.segments line.text).filterMap (Tag.ofSegment? line)
  else []

end Line

/-- The lines that are read while no doc-string is open, each with whether a doc-string
is open behind it. -/
def Document.Reader.outside (settings : Settings) (reader : Document.Reader) :
    List Line → List (Line × Bool)
  | [] => []
  | line :: rest =>
    let next := (reader.read settings line).1
    if reader.inDocString then next.outside settings rest
    else (line, next.inDocString) :: next.outside settings rest

/-! ## What a step appends -/

namespace Line

variable {dialect : Dialect} {line : Line}

/-- A tag line gives the tags that the reader takes from it. -/
theorem tags_of_role (role : dialect.role line = .tag) : line.tags dialect = Tag.onLine line := by
  rw [tags, if_pos role, Tag.onLine_eq_filterMap]

theorem nodes_of_plain (role : dialect.role line = .plain) : line.nodes dialect false = [] := by
  simp [nodes, roleNode?, role]

theorem nodes_of_quiet (silent : (dialect.role line).isStep = false)
    (colonless : (dialect.role line).takesColon = false) (free : dialect.role line ≠ .tableRow) :
    line.nodes dialect false = [] := by
  cases role : dialect.role line <;> simp_all [nodes, roleNode?, Role.isStep, Role.takesColon]

/-- Lines of a description stand for nothing. -/
theorem nodes_of_free (silent : (dialect.role line).isStep = false)
    (colonless : (dialect.role line).takesColon = false) (free : dialect.isArgument line = false) :
    line.nodes dialect false = [] := by
  refine nodes_of_quiet silent colonless ?_
  intro role
  simp [Dialect.isArgument, role] at free

end Line

namespace Step.Sequence

/-- The nodes of the steps read so far. -/
def nodes (steps : Sequence) : List Node :=
  steps.finish.flatMap Step.nodes

@[simp] theorem nodes_nil : nodes [] = [] :=
  rfl

@[simp] theorem nodes_cons (step : Draft) (earlier : Sequence) :
    nodes (step :: earlier) = nodes earlier ++ step.finish.nodes := by
  simp [nodes, finish]

end Step.Sequence

namespace Step.Draft

theorem inDocString_of_onLine? {dialect : Dialect} {line : Line} {start : Draft}
    (starts : onLine? dialect line = some start) : start.inDocString = false :=
  inDocString_of_free (free_of_onLine? starts)

theorem nodes_finish_of_onLine? {dialect : Dialect} {line : Line} {start : Draft}
    (starts : onLine? dialect line = some start) :
    start.finish.nodes = line.nodes dialect false := by
  have role := exists_role_of_onLine? starts
  rw [onLine?_of_role role, Option.some.injEq] at starts
  rw [← starts]
  simp [finish, argument, Step.nodes, Line.nodes, Line.roleNode?, role]

/-- A row that follows a step is one node more. -/
theorem nodes_finish_of_row {step : Draft} (free : step.docString = none) (line : Line) :
    ({ step with table := some (Table.Draft.add step.table line).1 } : Draft).finish.nodes =
      step.finish.nodes ++ [.row (.onLine line)] := by
  cases begun : step.table <;>
    simp [finish, argument, Step.nodes, Argument.nodes, Table.Draft.add, Table.Draft.finish,
      Table.allRows, begun, free]

/-- So is the doc-string of a step that has no argument yet. -/
theorem nodes_finish_of_opening {step : Draft} (free : step.docString = none)
    (bare : step.table = none) (opening : DocString.Opening) :
    ({ step with docString := some ⟨opening, [], true⟩ } : Draft).finish.nodes =
      step.finish.nodes ++ [opening.node] := by
  simp [finish, argument, Step.nodes, Argument.nodes, DocString.Draft.finish,
    DocString.Opening.node, free, bare]

/-- The lines of the body leave the node of a doc-string as it is. -/
theorem nodes_finish_of_content {step : Draft} {docString : DocString.Draft}
    (unfinished : step.docString = some docString) (line : Line) :
    ({ step with docString := some (docString.add line) } : Draft).finish.nodes =
      step.finish.nodes := by
  cases begun : step.table <;>
    simp [finish, argument, Step.nodes, Argument.nodes, DocString.Draft.finish, begun, unfinished]

end Step.Draft

namespace Body.Draft

variable {dialect : Dialect} {line : Line} {body next : Body.Draft} {faults : List Fault}

theorem Takes.nodes_eq (standard : dialect.separators = .standard)
    (routed : body.inDocString = true ∨ (dialect.role line).takesColon = false)
    (taken : Takes dialect line body next faults) :
    next.steps.nodes = body.steps.nodes ++
      if body.inDocString then [] else line.nodes dialect next.inDocString := by
  cases taken with
  | @content step earlier docString steps unfinished isOpen =>
      have inside : body.inDocString = true :=
        (inDocString_of_steps steps).trans (Step.Draft.inDocString_of_open unfinished isOpen)
      simp [inside, steps, Step.Draft.nodes_finish_of_content unfinished]
  | @step start outside starts =>
      have closed := Step.Draft.inDocString_of_onLine? starts
      simp [outside, inDocString_cons, closed, Step.Draft.nodes_finish_of_onLine? starts]
  | @row step earlier steps free role unmarked =>
      have outside : body.inDocString = false :=
        (inDocString_of_steps steps).trans (Step.Draft.inDocString_of_free free)
      have still : ({ step with table := some (Table.Draft.add step.table line).1 } :
          Step.Draft).inDocString = false := Step.Draft.inDocString_of_free free
      simp [outside, inDocString_cons, still, steps, Step.Draft.nodes_finish_of_row free, Line.nodes,
        Line.roleNode?, role]
  | @opening step earlier opening steps free silent admitted opens =>
      have outside : body.inDocString = false :=
        (inDocString_of_steps steps).trans (Step.Draft.inDocString_of_free free)
      have inside : ({ step with docString := some ⟨opening, [], true⟩ } :
          Step.Draft).inDocString = true := Step.Draft.inDocString_of_open rfl rfl
      have unbarred := unbarred_of_opens standard opens
      have bare : step.table = none := admitted.resolve_left unbarred
      have quiet := Line.nodes_of_quiet silent (routed.resolve_left (by simp [outside])) unbarred
      simp only [Line.nodes, Bool.false_eq_true, if_false, List.append_nil] at quiet
      simp [outside, inDocString_cons, inside, steps,
        Step.Draft.nodes_finish_of_opening free bare, Line.nodes, quiet, opens]
  | blank steps outside white =>
      simp [outside, Line.nodes_of_plain (Dialect.role_of_isBlank dialect white)]
  | description steps silent free =>
      have outside : body.inDocString = false := inDocString_of_steps_nil steps
      have quiet := Line.nodes_of_free silent (routed.resolve_left (by simp [outside])) free
      simp [inDocString_of_steps_nil, steps, quiet]

/-- Only a separator opens a doc-string. -/
theorem Takes.isSeparator_of_opens (taken : Takes dialect line body next faults)
    (outside : body.inDocString = false) (inside : next.inDocString = true) :
    dialect.isSeparator line = true := by
  cases taken with
  | content steps unfinished isOpen =>
      rw [inDocString_of_steps steps, Step.Draft.inDocString_of_open unfinished isOpen] at outside
      cases outside
  | step _ starts =>
      rw [inDocString_cons, Step.Draft.inDocString_of_onLine? starts] at inside
      cases inside
  | row steps free role unmarked =>
      rw [inDocString_cons, Step.Draft.inDocString_of_free (by exact free)] at inside
      cases inside
  | opening steps free silent admitted opens => exact isSeparator_eq_true_iff.mpr ⟨_, opens⟩
  | blank => exact absurd inside (by rw [outside]; decide)
  | description steps silent free =>
      rw [inDocString_of_steps_nil (by exact steps)] at inside
      cases inside

end Body.Draft

namespace Background.Draft

@[simp] theorem nodes_finish_onLine (dialect : Dialect) (line : Line) :
    (onLine dialect line).finish.nodes = [.background (.onLine dialect.language line)] :=
  rfl

end Background.Draft

namespace Examples.Draft

@[simp] theorem nodes_finish_onLine (dialect : Dialect) (tags : List Tag) (line : Line) :
    (onLine dialect tags line).finish.nodes = [.examples (.onLine dialect.language line)] :=
  rfl

theorem nodes_finish_of_add {dialect : Dialect} {line : Line} {block next : Examples.Draft}
    {faults : List Fault} (colonless : (dialect.role line).takesColon = false)
    (taken : block.add dialect line = .ok (next, faults)) :
    next.finish.nodes = block.finish.nodes ++ line.nodes dialect false := by
  simp only [add] at taken
  split_ifs at taken with role begun white steps
  · cases taken
    cases before : block.table <;>
      simp [finish, Examples.nodes, Table.Draft.add, Table.Draft.finish, Table.allRows, before,
        Line.nodes, Line.roleNode?, role]
  · cases taken
    simp [Line.nodes_of_plain (Dialect.role_of_isBlank dialect white)]
  · cases taken
    simp only [Bool.not_eq_true] at steps
    simp [finish, Examples.nodes, Line.nodes_of_quiet steps colonless role]

theorem tags_finish_of_add {dialect : Dialect} {line : Line} {block next : Examples.Draft}
    {faults : List Fault} (taken : block.add dialect line = .ok (next, faults)) :
    next.finish.tags = block.finish.tags := by
  simp only [add] at taken
  split_ifs at taken <;> cases taken <;> rfl

end Examples.Draft

namespace Scenario.Draft

@[simp] theorem nodes_finish_onLine (dialect : Dialect) (tags : List Tag) (line : Line) :
    (onLine dialect tags line).finish.nodes = [.scenario (.onLine dialect.language line)] :=
  rfl

theorem nodes_finish (scenario : Scenario.Draft) :
    scenario.finish.nodes = .scenario scenario.heading :: scenario.body.steps.nodes ++
      scenario.examples.reverse.flatMap fun block => block.finish.nodes := by
  simp only [finish, Scenario.nodes, Step.Sequence.nodes, List.flatMap_map]

end Scenario.Draft

namespace Feature.Draft

@[simp] theorem nodes_finish_onLine (dialect : Dialect) (tags : List Tag) (line : Line)
    (code : Text) :
    ((onLine dialect tags line).finish code).nodes = [.feature (.onLine dialect.language line)] :=
  rfl

variable {dialect : Dialect} {line : Line} {feature next : Feature.Draft} {faults : List Fault}

theorem nodes_finish (code : Text) (feature : Feature.Draft) :
    (feature.finish code).nodes = .feature feature.heading ::
      (feature.background.map fun background => background.finish.nodes).getD [] ++
        feature.scenarios.reverse.flatMap fun scenario => scenario.finish.nodes := by
  simp only [finish, Feature.nodes, List.flatMap_map, Option.map_map, Function.comp_def]

theorem Takes.nodes_eq (standard : dialect.separators = .standard)
    (routed : feature.inDocString = true ∨ (dialect.role line).takesColon = false)
    (taken : Takes dialect line feature next faults) (code : Text) :
    (next.finish code).nodes = (feature.finish code).nodes ++
      if feature.inDocString then [] else line.nodes dialect next.inDocString := by
  cases taken with
  | @scenario scenario earlier body _ scenarios inBody taken =>
      have sameBefore : feature.inDocString = scenario.body.inDocString := by
        simp [inDocString, scenarios, Scenario.Draft.inDocString]
      rw [sameBefore] at routed ⊢
      have more := taken.nodes_eq standard routed
      rcases inBody with inside | noExamples
      · have inside : scenario.body.inDocString = true := inside
        simp [nodes_finish, Scenario.Draft.nodes_finish, scenarios, more, inside]
      · simp [nodes_finish, Scenario.Draft.nodes_finish, scenarios, more, noExamples, inDocString,
          Scenario.Draft.inDocString]
  | @examples scenario earlier block later blocks _ scenarios outside examples taken =>
      have sameBefore : feature.inDocString = false := by simp [inDocString, scenarios, outside]
      have more := Examples.Draft.nodes_finish_of_add
        (routed.resolve_left (by simp [sameBefore])) taken
      have sameAfter : scenario.body.inDocString = false := outside
      simp [nodes_finish, Scenario.Draft.nodes_finish, scenarios, examples, more, inDocString,
        Scenario.Draft.inDocString, sameAfter]
  | @background background body _ scenarios present taken =>
      have sameBefore : feature.inDocString = background.body.inDocString := by
        simp [inDocString, scenarios, present, Background.Draft.inDocString]
      rw [sameBefore] at routed ⊢
      have more := taken.nodes_eq standard routed
      simp only [Step.Sequence.nodes] at more
      simp [nodes_finish, scenarios, present, Background.Draft.finish, Background.nodes, more,
        inDocString, Background.Draft.inDocString]
  | description scenarios absent silent free =>
      have outside : feature.inDocString = false := by simp [inDocString, scenarios, absent]
      have quiet := Line.nodes_of_free silent (routed.resolve_left (by simp [outside])) free
      simp [nodes_finish, inDocString, scenarios, absent, quiet]

theorem Takes.isSeparator_of_opens (taken : Takes dialect line feature next faults)
    (outside : feature.inDocString = false) (inside : next.inDocString = true) :
    dialect.isSeparator line = true := by
  cases taken with
  | scenario scenarios inBody taken =>
      rw [inDocString_of_scenarios scenarios] at outside
      exact taken.isSeparator_of_opens outside inside
  | examples scenarios closed examples taken =>
      exact absurd (inside : _ = true) (by simpa [inDocString, Scenario.Draft.inDocString] using closed)
  | background scenarios present taken =>
      rw [inDocString_of_background scenarios present] at outside
      rw [inDocString_of_background (by exact scenarios) rfl] at inside
      exact taken.isSeparator_of_opens outside inside
  | description scenarios absent silent free =>
      simp [inDocString, scenarios, absent] at inside

/-- The tags of a feature and its scenarios were claimed by their headings, and stay. -/
theorem Takes.allTags_eq (taken : Takes dialect line feature next faults) (code : Text) :
    (next.finish code).allTags = (feature.finish code).allTags := by
  cases taken with
  | scenario scenarios inBody taken =>
      simp [finish, Feature.allTags, Scenario.Draft.finish, Scenario.allTags, scenarios]
  | examples scenarios outside examples taken =>
      simp [finish, Feature.allTags, Scenario.Draft.finish, Scenario.allTags, scenarios, examples,
        Examples.Draft.tags_finish_of_add taken]
  | background scenarios present taken => simp [finish, Feature.allTags]
  | description scenarios absent silent free => simp [finish, Feature.allTags]

end Feature.Draft

namespace Document.Draft

variable {dialect : Dialect} {line : Line} {draft next : Draft} {faults : List Fault}

theorem nodes_finish (uri : Text) (draft : Draft) :
    (draft.finish uri).nodes =
      (draft.feature.map fun feature => (feature.finish draft.language.code).nodes).getD [] := by
  simp only [finish, Document.nodes, Option.map_map, Function.comp_def]

/-- A line that is read outside doc-strings appends its nodes, and one that is read within
a doc-string appends none. -/
theorem Takes.nodes_eq (standard : dialect.separators = .standard)
    (taken : Takes dialect line draft next faults) (uri : Text) :
    (next.finish uri).nodes = (draft.finish uri).nodes ++
      if draft.inDocString then [] else line.nodes dialect next.inDocString := by
  rw [nodes_finish, nodes_finish]
  cases taken with
  | comment outside role | tag outside role =>
      have after : ∀ comments pending, inDocString { draft with comments, pending } = false :=
        fun _ _ => outside
      simp [outside, after, Line.nodes, Line.roleNode?, role]
  | blank outside white idle =>
      simp [outside, Line.nodes_of_plain (Dialect.role_of_isBlank dialect white)]
  | feature outside role absent =>
      simp [outside, absent, Heading.onLine, Line.nodes, Line.roleNode?, role]
  | background outside role present unclaimed inHeader =>
      rw [Feature.Draft.inHeader_iff] at inHeader
      simp [outside, present, Feature.Draft.nodes_finish,
        Feature.Draft.inDocString, inHeader, Heading.onLine, Line.nodes, Line.roleNode?, role]
  | scenario outside role present =>
      rcases role with role | role <;>
        simp [outside, present, Feature.Draft.nodes_finish,
          Feature.Draft.inDocString, Heading.onLine, Line.nodes, Line.roleNode?, role]
  | @examples feature scenario earlier outside role present scenarios isOutline =>
      have closed : scenario.body.inDocString = false := by
        rw [← outside, inDocString_of_feature present, Feature.Draft.inDocString_of_scenarios scenarios,
          Scenario.Draft.inDocString]
      simp [outside, present, scenarios, Feature.Draft.nodes_finish,
        Scenario.Draft.nodes_finish, Feature.Draft.inDocString, Scenario.Draft.inDocString, closed,
        Heading.onLine, Line.nodes, Line.roleNode?, role]
  | @inner feature later _ present routed taken =>
      rw [inDocString_of_feature present] at routed ⊢
      have more := taken.nodes_eq standard (routed.imp_right fun plain => plain.2.2.2)
        draft.language.code
      simp only [present, Option.map_some, Option.getD_some, more, inDocString, Option.any_some]

theorem Takes.comments_eq (taken : Takes dialect line draft next faults) (uri : Text) :
    (next.finish uri).comments = (draft.finish uri).comments ++
      if draft.inDocString then [] else line.comments dialect := by
  cases taken with
  | comment outside role => simp [outside, finish, Line.comments, role]
  | tag outside role => simp [outside, finish, Line.comments, role]
  | blank outside white idle =>
      simp [outside, Line.comments, Dialect.role_of_isBlank dialect white]
  | feature outside role absent => simp [outside, finish, withFeature, Line.comments, role]
  | background outside role present unclaimed inHeader =>
      simp [outside, finish, withFeature, Line.comments, role]
  | scenario outside role present =>
      rcases role with role | role <;> simp [outside, finish, withFeature, Line.comments, role]
  | examples outside role present scenarios isOutline =>
      simp [outside, finish, withFeature, Line.comments, role]
  | inner present routed taken =>
      rcases routed with inside | ⟨unclaimed, comment, tag, colon⟩
      · simp [inside, finish]
      · simp [finish, Line.comments, comment]

theorem Takes.isSeparator_of_opens (taken : Takes dialect line draft next faults)
    (outside : draft.inDocString = false) (inside : next.inDocString = true) :
    dialect.isSeparator line = true := by
  cases taken with
  | comment | tag | blank => exact absurd (outside.symm.trans inside) (by decide)
  | feature | scenario => cases inside
  | background _ role present unclaimed inHeader =>
      rw [Feature.Draft.inHeader_iff] at inHeader
      simp [Feature.Draft.inDocString, inHeader] at inside
  | examples _ role present scenarios isOutline =>
      rw [inDocString_of_feature present, Feature.Draft.inDocString_of_scenarios scenarios] at outside
      exact absurd (outside.symm.trans inside) (by decide)
  | inner present routed taken =>
      rw [inDocString_of_feature present] at outside
      exact taken.isSeparator_of_opens outside inside

/-- The tags of the tree read so far, and then those that wait for their construct. -/
def allTags (draft : Draft) : List Tag :=
  (draft.feature.map fun feature => (feature.finish draft.language.code).allTags).getD [] ++
    draft.pending.tags

theorem Takes.allTags_eq (taken : Takes dialect line draft next faults) :
    next.allTags = draft.allTags ++ if draft.inDocString then [] else line.tags dialect := by
  cases taken with
  | comment outside role => simp [outside, allTags, Line.tags, role]
  | tag outside role => simp [outside, allTags, Line.tags_of_role role, PendingTags.tags]
  | blank outside white idle =>
      simp [outside, Line.tags, Dialect.role_of_isBlank dialect white]
  | feature outside role absent =>
      simp [outside, allTags, absent, Line.tags, role, Feature.Draft.onLine, Feature.Draft.finish,
        Feature.allTags, withFeature, PendingTags.tags]
  | background outside role present unclaimed inHeader =>
      simp [outside, allTags, present, Line.tags, role, Feature.Draft.finish, Feature.allTags,
        withFeature, unclaimed, PendingTags.tags]
  | scenario outside role present =>
      rcases role with role | role <;>
        simp [outside, allTags, present, Line.tags, role, Feature.Draft.finish, Feature.allTags,
          Scenario.Draft.onLine, Scenario.Draft.finish, Scenario.allTags, withFeature,
          PendingTags.tags]
  | examples outside role present scenarios isOutline =>
      simp [outside, allTags, present, Line.tags, role, scenarios, Feature.Draft.finish,
        Feature.allTags, Scenario.Draft.finish, Scenario.allTags, Examples.Draft.onLine,
        Examples.Draft.finish, withFeature, PendingTags.tags]
  | inner present routed taken =>
      have quiet : (if draft.inDocString then [] else line.tags dialect) = [] := by
        rcases routed with inside | ⟨unclaimed, comment, tag, colon⟩
        · simp [inside]
        · simp [Line.tags, tag]
      rw [quiet, List.append_nil, allTags, allTags, present]
      simp [taken.allTags_eq]

/-! ## What a run appends -/

variable {settings : Settings} {final : Draft} {lines : List Line}

theorem outside_withLastLine (last : Nat) :
    ({ draft with lastLine := last } : Draft).reader.outside settings lines =
      draft.reader.outside settings lines := by
  cases lines with
  | nil => rfl
  | cons line rest =>
      simp only [Reader.outside, read_reader, inDocString_reader]
      rfl

theorem outside_cons (undirected : directive? line = none)
    (taken : Takes (settings.dialect draft.language) line draft next []) :
    draft.reader.outside settings (line :: lines) =
      (if draft.inDocString then [] else [(line, next.inDocString)]) ++
        next.reader.outside settings lines := by
  have added := (add_eq_nil_iff undirected).mpr (taken.withLastLine line.number)
  have same : ∀ last, ({ next with lastLine := last } : Draft).inDocString = next.inDocString :=
    fun _ => rfl
  cases inside : draft.inDocString <;>
    simp [Reader.outside, read_reader, added, inside, same, outside_withLastLine]

/-- A run appends, line by line, what the lines outside doc-strings stand for. -/
theorem Reads.account (draft : Draft) (standard : settings.separators = .standard)
    (undirected : ∀ line ∈ lines, directive? line = none)
    (run : Reads (settings.dialect draft.language) draft lines final) (uri : Text) :
    (final.finish uri).nodes = (draft.finish uri).nodes ++
        (draft.reader.outside settings lines).flatMap (fun entry =>
          entry.1.nodes (settings.dialect draft.language) entry.2) ∧
      (final.finish uri).comments = (draft.finish uri).comments ++
        (draft.reader.outside settings lines).flatMap (fun entry =>
          entry.1.comments (settings.dialect draft.language)) ∧
      final.allTags = draft.allTags ++
        (draft.reader.outside settings lines).flatMap (fun entry =>
          entry.1.tags (settings.dialect draft.language)) ∧
      ∀ entry ∈ draft.reader.outside settings lines, entry.2 = true →
        (settings.dialect draft.language).isSeparator entry.1 = true := by
  induction lines generalizing draft with
  | nil =>
      cases run
      simp [Reader.outside]
  | cons line rest inductionHypothesis =>
      cases run with
      | @cons _ next _ _ _ taken later =>
          have same : next.language = draft.language := taken.language_eq
          have plain := undirected line List.mem_cons_self
          rw [← same] at later
          rcases inductionHypothesis _
              (fun other listed => undirected other (List.mem_cons_of_mem _ listed)) later with
            ⟨nodes, comments, tags, separators⟩
          rw [same] at nodes comments tags separators
          rw [nodes, comments, tags, outside_cons plain taken, taken.nodes_eq standard,
            taken.comments_eq, taken.allTags_eq]
          cases inside : draft.inDocString with
          | true => exact ⟨by simp, by simp, by simp, by simpa using separators⟩
          | false =>
              refine ⟨by simp, by simp, by simp, ?_⟩
              intro entry listed opens
              rcases List.mem_append.mp listed with own | listed
              · rcases List.mem_singleton.mp own with rfl
                exact taken.isSeparator_of_opens inside opens
              · exact separators entry listed opens

end Document.Draft

theorem Preamble.undirected {languages : LanguageTable} {texts : List Text} {language : Language}
    {lines : List Line} (preamble : Preamble languages texts language lines) :
    ∀ line ∈ lines, Document.directive? line = none := by
  cases preamble with
  | directive named known => exact Line.directive?_numberFrom (Nat.lt_succ_self 1)
  | absent unnamed => exact Line.directive?_of_unnamed unnamed

/-- The lines `seen` outside doc-strings, each with whether it opened a doc-string, are
those that a document is made of: in document order it has the nodes, comments and tags
for which they stand, and what opened a doc-string is a separator line. -/
structure Document.Accounts (dialect : Dialect) (seen : List (Line × Bool)) (document : Document) :
    Prop where
  nodes : document.nodes = seen.flatMap fun entry => entry.1.nodes dialect entry.2
  comments : document.comments = seen.flatMap fun entry => entry.1.comments dialect
  tags : document.allTags = seen.flatMap fun entry => entry.1.tags dialect
  openings : ∀ entry ∈ seen, entry.2 = true → dialect.isSeparator entry.1 = true

/-- In an accepted document the lines that are read while no doc-string is open are
found again in document order, each exactly once and as what its role makes it: as a
heading, step or row, as the opening of a doc-string, as a comment or as tags. -/
theorem accepted_lines_accounted {languages : LanguageTable} {uri : Text} {texts : List Text}
    {document : Document} (accepted : parseLines ⟨languages, .standard⟩ uri texts = .ok document) :
    ∃ language lines, Preamble languages texts language lines ∧
      document.Accounts ⟨language, .standard⟩
        ((Document.Reader.start language).outside ⟨languages, .standard⟩ lines) := by
  rcases parseLines_eq_ok_iff.mp accepted with
    ⟨language, lines, final, preamble, run, closed, unclaimed, rfl⟩
  have standard : (Settings.mk languages .standard).separators = .standard := rfl
  rcases Document.Draft.Reads.account (.start language) standard preamble.undirected run uri with
    ⟨nodes, comments, tags, openings⟩
  have same : (final.finish uri).allTags = final.allTags := by
    simp [Document.Draft.allTags, Document.allTags, Document.Draft.finish, unclaimed,
      PendingTags.tags, Function.comp_def]
  exact ⟨language, lines, preamble, nodes, comments, same.trans tags, openings⟩

/-- A document with tags, a row and a comment, which is accepted. -/
theorem tagged_outline_accounted : ∃ document language lines,
    parseLines .standard [] (["Feature: f", "# c", "@t", "Scenario Outline: s", "Given x", "| a |",
      "Examples:"].map String.toList) = .ok document ∧
    Preamble .builtin (["Feature: f", "# c", "@t", "Scenario Outline: s", "Given x", "| a |",
      "Examples:"].map String.toList) language lines ∧
    document.Accounts ⟨language, .standard⟩
      ((Document.Reader.start language).outside .standard lines) := by
  rcases accepted_lines_accounted (by rfl :
      parseLines .standard [] (["Feature: f", "# c", "@t", "Scenario Outline: s", "Given x", "| a |",
      "Examples:"].map String.toList) = .ok _) with ⟨language, lines, preamble, accounts⟩
  exact ⟨_, language, lines, rfl, preamble, accounts⟩

end Gherkin
