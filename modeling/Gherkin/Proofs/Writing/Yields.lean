import Gherkin.Proofs.Document.Erasure
import Gherkin.Proofs.Reading.Blank
import Gherkin.Proofs.Reading.Legible

namespace Gherkin

open Text (EndsSolid SingleLine Trimmed)

/-!
# Reading on from written lines

`Yields` says of written lines that a reader can go through them from a given
state, wherever in a file they stand, and what holds of the state it arrives at.
It is defined for any relation between states, so that descriptions, rows and
bodies can each be followed in the construct to which they belong, and is carried
over to the enclosing construct by `Yields.lift`.
-/

/-- The lines are single lines, are taken up one after the other from the given state, and
lead to a state with the property `after`. -/
def Yields {State : Type} (takes : Line → State → State → Prop) (after : State → Prop) :
    List Text → State → Prop
  | [], state => after state
  | text :: rest, state =>
    SingleLine text ∧ ∀ number, ∃ next, takes ⟨text, number⟩ state next ∧ Yields takes after rest next

namespace Yields

variable {State Outer : Type} {takes : Line → State → State → Prop} {after later : State → Prop}
  {first second : List Text} {state : State}

theorem mono (implies : ∀ reached, after reached → later reached)
    (yields : Yields takes after first state) : Yields takes later first state := by
  induction first generalizing state with
  | nil => exact implies state yields
  | cons text rest inductionHypothesis =>
      refine ⟨yields.1, fun number => ?_⟩
      rcases yields.2 number with ⟨next, taken, further⟩
      exact ⟨next, taken, inductionHypothesis further⟩

theorem append (yields : Yields takes after first state)
    (further : ∀ reached, after reached → Yields takes later second reached) :
    Yields takes later (first ++ second) state := by
  induction first generalizing state with
  | nil => exact further state yields
  | cons text rest inductionHypothesis =>
      refine ⟨yields.1, fun number => ?_⟩
      rcases yields.2 number with ⟨next, taken, onward⟩
      exact ⟨next, taken, inductionHypothesis onward⟩

/-- One line after which the property holds. -/
theorem single {text : Text} (line : SingleLine text)
    (taken : ∀ number, ∃ next, takes ⟨text, number⟩ state next ∧ after next) :
    Yields takes after [text] state :=
  ⟨line, taken⟩

/-- Lines that a construct takes up are lines of the construct around it. -/
theorem lift {surrounding : Line → Outer → Outer → Prop} (embed : State → Outer)
    (simulates : ∀ line current next, takes line current next →
      surrounding line (embed current) (embed next))
    (yields : Yields takes after first state) :
    Yields surrounding (fun reached => ∃ inner, after inner ∧ reached = embed inner) first
      (embed state) := by
  induction first generalizing state with
  | nil => exact ⟨state, yields, rfl⟩
  | cons text rest inductionHypothesis =>
      refine ⟨yields.1, fun number => ?_⟩
      rcases yields.2 number with ⟨next, taken, further⟩
      exact ⟨embed next, simulates _ _ _ taken, inductionHypothesis further⟩

theorem singleLine (yields : Yields takes after first state) : ∀ text ∈ first, SingleLine text := by
  induction first generalizing state with
  | nil => exact fun text listed => absurd listed List.not_mem_nil
  | cons text rest inductionHypothesis =>
      intro other listed
      rcases List.mem_cons.mp listed with rfl | listed
      · exact yields.1
      · rcases yields.2 0 with ⟨next, -, further⟩
        exact inductionHypothesis further other listed

end Yields

/-! ## Descriptions -/

namespace Description

variable {draft : Description.Draft}

/-- A description is written as its lines from the first to the last that is not blank. -/
theorem layout_finish (single : ∀ text ∈ draft, SingleLine text) :
    Description.layout draft.finish = Text.innerLines draft.reverse := by
  cases inner : Text.innerLines draft.reverse with
  | nil => simp [layout, Draft.finish, inner]
  | cons first rest =>
      have lines : ∀ text ∈ first :: rest, SingleLine text := by
        intro text listed
        rw [← inner] at listed
        exact single text (List.mem_reverse.mp (Text.mem_of_mem_innerLines listed))
      simp [layout, Draft.finish, inner, Text.lines_joinLines lines (List.cons_ne_nil _ _)]

variable {State : Type} {takes : Line → State → State → Prop}

private theorem yields_lines (embed : Description.Draft → State) {texts : List Text}
    (single : ∀ text ∈ texts, SingleLine text) (solid : ∀ text ∈ texts, EndsSolid text)
    (accepts : ∀ text ∈ texts, ∀ number current,
      takes ⟨text, number⟩ (embed current) (embed (current.add ⟨text, number⟩)))
    (before : Description.Draft) :
    Yields takes (fun reached => reached = embed (texts.reverse ++ before)) texts (embed before) := by
  induction texts generalizing before with
  | nil => rfl
  | cons text rest inductionHypothesis =>
      refine ⟨single text List.mem_cons_self, fun number => ?_⟩
      refine ⟨_, accepts text List.mem_cons_self number before, ?_⟩
      have kept : before.add ⟨text, number⟩ = text :: before :=
        congrArg (· :: before) (Text.trimEnd_eq_self_iff.mpr (solid text List.mem_cons_self))
      rw [kept, List.reverse_cons, List.append_assoc, List.singleton_append]
      exact inductionHypothesis (fun other listed => single other (List.mem_cons_of_mem _ listed))
        (fun other listed => solid other (List.mem_cons_of_mem _ listed))
        (fun other listed => accepts other (List.mem_cons_of_mem _ listed)) (text :: before)

/-- The written description is read back by every construct that takes its lines. -/
theorem yields_layout (embed : Description.Draft → State) (single : ∀ text ∈ draft, SingleLine text)
    (solid : ∀ text ∈ draft, EndsSolid text)
    (accepts : ∀ text ∈ draft, ∀ number current,
      takes ⟨text, number⟩ (embed current) (embed (current.add ⟨text, number⟩))) :
    Yields takes (fun reached => ∃ again : Description.Draft, again.finish = draft.finish ∧ reached = embed again)
      (Description.layout draft.finish) (embed []) := by
  have within : ∀ text ∈ Text.innerLines draft.reverse, text ∈ draft := fun text listed =>
    List.mem_reverse.mp (Text.mem_of_mem_innerLines listed)
  rw [layout_finish single]
  refine (yields_lines embed (fun text listed => single text (within text listed))
    (fun text listed => solid text (within text listed))
    (fun text listed => accepts text (within text listed)) []).mono ?_
  intro reached same
  refine ⟨_, finish_eq_of_innerLines ?_, same⟩
  rw [List.append_nil, List.reverse_reverse, Text.innerLines_innerLines]

end Description

end Gherkin
