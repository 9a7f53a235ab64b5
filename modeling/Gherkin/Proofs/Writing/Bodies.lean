import Gherkin.Proofs.Writing.Arguments

namespace Gherkin

/-!
# Written bodies are read back

The first line of a step starts a step again, and the lines below it are those of
one argument.  So the steps of a body come back one by one.  Each of them is the
step that its own first line starts, which is what `Step.reread` says.
-/

theorem Step.argument_reread (language : Language) (step : Step) :
    (step.reread language).argument = step.argument := by
  simp only [Step.reread]
  split <;> rfl

/-- A step that is read back keeps its argument. -/
theorem Step.erased_reread (language : Language) (step : Step) :
    (step.reread language).erased =
      ⟨(step.reread language).kind, (step.reread language).keyword, (step.reread language).text,
        step.argument.map Argument.erased, .erased⟩ := by
  rw [← Step.argument_reread language step]
  rfl

namespace Body.Draft

variable {dialect : Dialect} {body : Body.Draft}

/-- A line that goes to the body and is taken up there without a fault. -/
def Continues (dialect : Dialect) (line : Line) (body next : Body.Draft) : Prop :=
  (body.inDocString = true ∨ dialect.Routed line) ∧ Takes dialect line body next []

/-- The body with a further step. -/
def withStep (body : Body.Draft) (step : Step.Draft) : Body.Draft :=
  { body with steps := step :: body.steps }

theorem inDocString_withStep (step : Step.Draft) : (body.withStep step).inDocString = step.inDocString :=
  inDocString_cons

theorem routed_of_isStep {line : Line} {kind : StepKind} (role : dialect.role line = .step kind) :
    dialect.Routed line := by
  rw [Dialect.Routed, role]
  exact ⟨by simp, by simp, rfl⟩

theorem routed_of_tableRow {line : Line} (role : dialect.role line = .tableRow) :
    dialect.Routed line := by
  rw [Dialect.Routed, role]
  exact ⟨by simp, by simp, rfl⟩

/-- Behind a step without an argument the rows of a table are taken up. -/
theorem accepts_rows (start : Step.Draft) (free : start.docString = none) :
    Table.Draft.Accepts dialect (Continues dialect)
      fun table => body.withStep { start with table := table } := by
  intro line table role unmarked faultless
  refine ⟨.inr (routed_of_tableRow role), ?_⟩
  have taken := @Takes.row dialect line (body.withStep { start with table := table })
    { start with table := table } body.steps rfl free role unmarked
  rw [faultless] at taken
  exact taken

/-- Behind a step without an argument the lines of a doc-string are taken up. -/
theorem accepts_docString (start : Step.Draft) (free : start.table = none) :
    DocString.Draft.Accepts dialect (Continues dialect)
      fun docString => body.withStep { start with docString := docString } where
  opening := by
    intro line opening role opens
    refine ⟨.inr (Dialect.routed_of_plain role), ?_⟩
    exact @Takes.opening dialect line (body.withStep { start with docString := none })
      { start with docString := none } body.steps opening rfl rfl (by rw [role]; rfl) (.inr free) opens
  content := by
    intro line current isOpen
    refine ⟨.inl ?_, ?_⟩
    · exact (inDocString_withStep _).trans (Step.Draft.inDocString_of_open rfl isOpen)
    · exact @Takes.content dialect line (body.withStep { start with docString := some current })
        { start with docString := some current } body.steps current rfl rfl isOpen

/-- The written argument of a step is read back behind a line that starts a step. -/
theorem yields_argument {step : Step.Draft} (legible : step.Legible dialect)
    (regular : dialect.language.Regular) (standard : dialect.separators = .standard)
    {start : Step.Draft} (untabled : start.table = none) (undocumented : start.docString = none) :
    Yields (Continues dialect) (fun reached => ∃ table docString,
        DocString.inProgress docString = false ∧
        ({ start with table := table, docString := docString } : Step.Draft).argument.map
          Argument.erased = step.argument.map Argument.erased ∧
        reached = body.withStep { start with table := table, docString := docString })
      ((step.argument.map Argument.layout).getD []) (body.withStep start) := by
  cases tabled : step.table with
  | some table =>
      have written : step.argument = some (.table table.finish) := by simp [Step.Draft.argument, tabled]
      have begun : start = { start with table := none } := by rw [← untabled]
      rw [written, begun]
      refine ((legible.table table tabled).yields regular standard
        (accepts_rows start undocumented)).mono ?_
      intro reached found
      rcases found with ⟨again, same, rfl⟩
      refine ⟨some again, start.docString, by rw [undocumented]; rfl, ?_, rfl⟩
      simp [Step.Draft.argument, Argument.erased, same]
  | none =>
      cases documented : step.docString with
      | some docString =>
          have written : step.argument = some (.docString docString.finish) := by
            simp [Step.Draft.argument, tabled, documented]
          have begun : start = { start with docString := none } := by rw [← undocumented]
          rw [written, begun]
          refine ((legible.docString docString documented).yields regular standard
            (accepts_docString start untabled)).mono ?_
          intro reached found
          rcases found with ⟨again, closed, same, rfl⟩
          refine ⟨start.table, some again, by simp [DocString.inProgress, closed], ?_, rfl⟩
          simp [Step.Draft.argument, untabled, Argument.erased, same]
      | none =>
          have written : step.argument = none := by simp [Step.Draft.argument, tabled, documented]
          rw [written]
          refine ⟨start.table, start.docString, by rw [undocumented]; rfl, ?_, rfl⟩
          simp [Step.Draft.argument, untabled, undocumented]

/-- The written step is read back behind every line that leaves no doc-string open. -/
theorem yields_step {step : Step.Draft} (legible : step.Legible dialect)
    (regular : dialect.language.Regular) (standard : dialect.separators = .standard)
    (outside : body.inDocString = false) :
    Yields (Continues dialect) (fun reached => ∃ again : Step.Draft, again.inDocString = false ∧
        again.finish.erased = (step.finish.reread dialect.language).erased ∧
        reached = body.withStep again)
      step.finish.layout body := by
  rcases legible.head with ⟨source, head⟩
  refine ⟨head.singleLine_headLayout, fun number => ?_⟩
  rcases head.onLine?_headLayout regular number with ⟨location, starts⟩
  have role := Step.Draft.exists_role_of_onLine? starts
  refine ⟨_, ⟨.inr (routed_of_isStep role), .step outside starts⟩, ?_⟩
  refine (yields_argument legible regular standard rfl rfl).mono ?_
  intro reached found
  rcases found with ⟨table, docString, closed, argument, rfl⟩
  refine ⟨_, ?_, ?_, rfl⟩
  · exact closed
  · rw [Step.erased_reread]
    exact congrArg (fun argument => (⟨(step.finish.reread dialect.language).kind,
      (step.finish.reread dialect.language).keyword, (step.finish.reread dialect.language).text,
      argument, .erased⟩ : Step)) argument

/-- Written steps are read back one after the other. -/
theorem yields_steps {steps : List Step.Draft} (legible : ∀ step ∈ steps, step.Legible dialect)
    (regular : dialect.language.Regular) (standard : dialect.separators = .standard)
    (outside : body.inDocString = false) :
    Yields (Continues dialect) (fun reached => reached.description = body.description ∧
        reached.inDocString = false ∧
        reached.steps.map (fun step => step.finish.erased) =
          (steps.map fun step => (step.finish.reread dialect.language).erased).reverse ++
            body.steps.map fun step => step.finish.erased)
      (steps.flatMap fun step => step.finish.layout) body := by
  induction steps generalizing body with
  | nil => exact ⟨rfl, outside, rfl⟩
  | cons step rest inductionHypothesis =>
      rw [List.flatMap_cons]
      refine (yields_step (legible step List.mem_cons_self) regular standard outside).append ?_
      intro reached found
      rcases found with ⟨again, closed, same, rfl⟩
      refine (inductionHypothesis (fun other listed => legible other (List.mem_cons_of_mem _ listed))
        ((inDocString_withStep again).trans closed)).mono ?_
      intro final reached
      rcases reached with ⟨description, closed, steps⟩
      refine ⟨description, closed, ?_⟩
      rw [steps, withStep, List.map_cons, same]
      simp

/-- The written description and steps of a body are read back below its heading. -/
theorem Legible.yields (legible : body.Legible dialect) (regular : dialect.language.Regular)
    (standard : dialect.separators = .standard) :
    Yields (Continues dialect) (fun reached =>
        reached.description.finish = body.description.finish ∧ reached.inDocString = false ∧
        reached.steps.finish.map Step.erased =
          body.steps.finish.map fun step => (step.reread dialect.language).erased)
      (Description.layout body.description.finish ++ body.steps.finish.flatMap Step.layout) .empty := by
  have plain := legible.description
  have descriptions : Yields (Continues dialect)
      (fun reached => ∃ again : Description.Draft, again.finish = body.description.finish ∧
        reached = ⟨again, []⟩) (Description.layout body.description.finish) .empty := by
    refine Description.yields_layout (fun description => (⟨description, []⟩ : Body.Draft))
      (fun text listed => (plain text listed).single) (fun text listed => (plain text listed).solid) ?_
    intro text listed number current
    have role : dialect.role ⟨text, number⟩ = .plain := (plain text listed).role
    have unmarked : dialect.isSeparator ⟨text, number⟩ = false := legible.unmarked text listed
    have silent : (dialect.role ⟨text, number⟩).isStep = false := by rw [role]; rfl
    have free : dialect.isArgument ⟨text, number⟩ = false := by
      simp [Dialect.isArgument, role, unmarked]
    exact ⟨.inr (Dialect.routed_of_plain role), .description rfl silent free⟩
  have written : body.steps.finish.flatMap Step.layout =
      body.steps.reverse.flatMap fun step => step.finish.layout := by
    rw [Step.Sequence.finish, List.flatMap_map]
  rw [written]
  apply descriptions.append
  intro reached found
  rcases found with ⟨again, same, rfl⟩
  refine (yields_steps (fun step listed => legible.steps step (List.mem_reverse.mp listed)) regular
    standard rfl).mono ?_
  intro final reached
  rcases reached with ⟨description, closed, steps⟩
  refine ⟨?_, closed, ?_⟩
  · rw [description, same]
  · simp only [List.map_nil, List.append_nil] at steps
    simp [Step.Sequence.finish, List.map_map, Function.comp_def, List.map_reverse, steps]

end Body.Draft

end Gherkin
