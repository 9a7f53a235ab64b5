import Gherkin.Proofs.Document.Erasure
import Gherkin.Proofs.Language.Keywords
import Gherkin.Proofs.Reading.Transition
import Gherkin.Proofs.Text.Lines

namespace Gherkin

open Text (Trimmed EndsSolid SingleLine)

/-!
# Written headings and steps are read back

A heading is written with one space behind its colon, and a step with nothing
but its keyword in front of its text.  A heading is read back as it was, because
the colon ends its keyword.  A step is read back as a step, though possibly with a
longer keyword.
-/

/-! ## Headings -/

namespace Heading

variable {language : Language} {line : Line} {heading : Heading}

/-- What a heading has behind its colon. -/
def title (heading : Heading) : Text :=
  if heading.name.isEmpty then [] else [' '] ++ heading.name

theorem trim_title (solid : Trimmed heading.name) : Text.trim heading.title = heading.name := by
  have white : Text.isBlank [' '] = true := by decide
  cases name : heading.name with
  | nil => simp [title, name, Text.trim, Text.trimStart, Text.trimEnd]
  | cons first others =>
      rw [name] at solid
      rw [title, name, List.isEmpty_cons, if_neg Bool.false_ne_true, Text.trim_append_left white,
        Text.trim_eq_self solid]

theorem endsSolid_title (solid : Trimmed heading.name) : EndsSolid (':' :: heading.title) := by
  cases name : heading.name with
  | nil => simp [title, name, EndsSolid]; decide
  | cons first others =>
      have same : ':' :: heading.title = [':', ' '] ++ heading.name := by simp [title, name]
      rw [same]
      exact Text.endsSolid_append solid.2 (by rw [name]; exact List.cons_ne_nil _ _)

theorem trim_layout (present : heading.keyword ≠ []) (starts : Text.StartsSolid heading.keyword)
    (solid : Trimmed heading.name) (indent : Nat) :
    Text.trim (heading.layout indent) = heading.keyword ++ ':' :: heading.title := by
  have core : Trimmed (heading.keyword ++ ':' :: heading.title) :=
    ⟨Text.startsSolid_append starts present,
      Text.endsSolid_append (endsSolid_title solid) (List.cons_ne_nil _ _)⟩
  have written : heading.layout indent =
      List.replicate indent ' ' ++ (heading.keyword ++ ':' :: heading.title) := by
    simp [layout, Layout.indented, title]
  rw [written, Text.trim_append_left (Text.isBlank_margin indent), Text.trim_eq_self core]

/-- The line of a heading has the keyword, a colon and the name in this order. -/
theorem exists_rest_of_takesColon (colon : (line.classify language).role.takesColon = true) :
    ∃ rest, line.trimmed = (onLine language line).keyword ++ ':' :: rest ∧
      (onLine language line).name = Text.trim rest := by
  have solid : (line.classify language).role ≠ .plain := by
    intro plain
    rw [plain] at colon
    cases colon
  rcases Classification.mem_candidates_of_role solid with ⟨-, opened⟩
  rcases (Classification.opens_iff.mp opened).2 with ⟨rest, same⟩ | ⟨step, -⟩
  · have opening : (Classification.ofText language line.text).opening =
        (line.classify language).keyword ++ [':'] := Classification.opening_of_takesColon colon
    rw [opening, List.append_assoc] at same
    have split : line.trimmed = (line.classify language).keyword ++ ':' :: rest := same.symm
    have name : (onLine language line).name = (line.classify language).strip line.trimmed := rfl
    refine ⟨rest, split, ?_⟩
    rw [name, split, Classification.strip_heading colon]
  · have colonless : (line.classify language).role.takesColon = false :=
      Role.takesColon_of_isStep step
    rw [colon] at colonless
    cases colonless

theorem trimmed_name (colon : (line.classify language).role.takesColon = true) :
    Trimmed (onLine language line).name := by
  rcases exists_rest_of_takesColon colon with ⟨rest, -, name⟩
  rw [name]
  exact Text.trimmed_trim rest

/-- The written line of a heading, trimmed. -/
theorem trim_layout_onLine (regular : language.Regular)
    (colon : (line.classify language).role.takesColon = true) (indent : Nat) :
    Text.trim ((onLine language line).layout indent) =
      (onLine language line).keyword ++ ':' :: (onLine language line).title := by
  have solid : (line.classify language).role ≠ .plain := by
    intro plain
    rw [plain] at colon
    cases colon
  rcases Classification.mem_candidates_of_role solid with ⟨listed, opened⟩
  exact trim_layout (Classification.opens_iff.mp opened).1 (regular.startsSolid listed)
    (trimmed_name colon) indent

/-- The written line of a heading has the classification of the line it was read from. -/
theorem classify_layout (regular : language.Regular)
    (colon : (line.classify language).role.takesColon = true) (indent number : Nat) :
    (⟨(onLine language line).layout indent, number⟩ : Line).classify language =
      line.classify language := by
  rcases exists_rest_of_takesColon colon with ⟨rest, split, -⟩
  refine regular.ofText_eq_of_heading colon ⟨rest, ?_⟩ ⟨(onLine language line).title, ?_⟩
  · rw [List.append_assoc]
    exact split.symm
  · rw [List.append_assoc, trim_layout_onLine regular colon]
    rfl

/-- The written line of a heading gives the heading back. -/
theorem erased_onLine_layout (regular : language.Regular)
    (colon : (line.classify language).role.takesColon = true) (indent number : Nat) :
    (onLine language ⟨(onLine language line).layout indent, number⟩).erased =
      (onLine language line).erased := by
  have again := classify_layout regular colon indent number
  have keyword : (onLine language ⟨(onLine language line).layout indent, number⟩).keyword =
      (onLine language line).keyword := congrArg Classification.keyword again
  have name : (onLine language ⟨(onLine language line).layout indent, number⟩).name =
      (onLine language line).name := by
    calc (onLine language ⟨(onLine language line).layout indent, number⟩).name
        = (line.classify language).strip (Text.trim ((onLine language line).layout indent)) :=
          congrArg (Line.textAfter _) again
      _ = Text.trim (onLine language line).title := by
          rw [trim_layout_onLine regular colon]
          exact Classification.strip_heading colon _
      _ = (onLine language line).name := trim_title (trimmed_name colon)
  exact congrArg₂ (fun keyword name => (⟨keyword, name, .erased⟩ : Heading)) keyword name

theorem singleLine_layout (colon : (line.classify language).role.takesColon = true)
    (single : SingleLine line.text) (indent : Nat) :
    SingleLine ((onLine language line).layout indent) := by
  rcases exists_rest_of_takesColon colon with ⟨rest, split, name⟩
  have whole : SingleLine ((onLine language line).keyword ++ ':' :: rest) := by
    rw [← split]
    exact single.trim
  rw [Text.singleLine_append] at whole
  have behind : SingleLine rest := whole.2.of_subset fun _ => List.mem_cons_of_mem _
  have title : SingleLine (onLine language line).title := by
    unfold Heading.title
    split_ifs
    · exact Text.singleLine_nil
    · have space : SingleLine [' '] := by decide
      rw [name]
      exact Text.singleLine_append.mpr ⟨space, behind.trim⟩
  have colon : SingleLine [':'] := by decide
  have written : (onLine language line).layout indent =
      List.replicate indent ' ' ++ ((onLine language line).keyword ++ [':'] ++
        (onLine language line).title) := rfl
  rw [written]
  simp only [Text.singleLine_append]
  exact ⟨Text.singleLine_margin indent, ⟨whole.1, colon⟩, title⟩

end Heading

/-! ## Steps -/

namespace Step

variable {language : Language} {step : Step} {line : Line}

/-- The keyword of a step with the role for which it stands. -/
def opener (step : Step) : Classification :=
  ⟨.step step.kind, step.keyword⟩

/-- The first line of a step, as far as the step keeps it. -/
structure HeadFrom (language : Language) (step : Step) (line : Line) : Prop where
  single : SingleLine line.text
  classified : line.classify language = step.opener
  text : line.textAfter step.opener = step.text

/-- The step that is read where the given one was written. -/
def reread (language : Language) (step : Step) : Step :=
  let line : Line := ⟨step.headLayout, 0⟩
  let classification := line.classify language
  match classification.role with
  | .step kind =>
    { step with
      kind := kind
      keyword := classification.keyword
      text := line.textAfter classification }
  | _ => step

namespace HeadFrom

theorem solid (head : step.HeadFrom language line) :
    (Classification.ofText language line.text).role ≠ .plain := by
  rw [← Line.classify, head.classified]
  simp [Step.opener]

theorem listed (head : step.HeadFrom language line) :
    step.opener ∈ Classification.candidates language := by
  have own := (Classification.mem_candidates_of_role head.solid).1
  rw [← Line.classify, head.classified] at own
  exact own

theorem opens (head : step.HeadFrom language line) : step.opener.opens line.trimmed = true := by
  have own := (Classification.mem_candidates_of_role head.solid).2
  rw [← Line.classify, head.classified] at own
  exact own

/-- The text of a step is what is left of its line, unless the keyword stands alone. -/
theorem trimmed_cases (head : step.HeadFrom language line) :
    (∃ rest, line.trimmed = step.keyword ++ rest ∧ step.text = Text.trim rest) ∨
      (step.text = [] ∧ line.trimmed = step.keyword.trimEnd) := by
  rw [← head.text]
  exact Classification.strip_cases rfl head.opens

theorem trimmed_text (head : step.HeadFrom language line) : Trimmed step.text := by
  rcases head.trimmed_cases with ⟨rest, -, same⟩ | ⟨same, -⟩
  · rw [same]
    exact Text.trimmed_trim rest
  · rw [same]
    exact Text.trimmed_nil

/-- A step without text is written as it was read. -/
theorem trimEnd_keyword (head : step.HeadFrom language line) (empty : step.text = []) :
    step.keyword.trimEnd = line.trimmed := by
  rcases head.trimmed_cases with ⟨rest, whole, text⟩ | ⟨-, whole⟩
  · have white : rest.isBlank = true := Text.trim_eq_nil_iff.mp (text.symm.trans empty)
    have ends : EndsSolid line.trimmed := (Text.trimmed_trim line.text).2
    rw [← Text.trimEnd_eq_self_iff.mpr ends, whole, Text.trimEnd_append_of_isBlank white]
  · exact whole.symm

theorem headLayout_of_nil (head : step.HeadFrom language line) (empty : step.text = []) :
    step.headLayout = List.replicate Layout.stepIndent ' ' ++ line.trimmed := by
  rw [headLayout, empty, List.isEmpty_nil, if_pos rfl, Layout.indented, head.trimEnd_keyword empty]

theorem headLayout_of_ne_nil (present : step.text ≠ []) :
    step.headLayout = List.replicate Layout.stepIndent ' ' ++ (step.keyword ++ step.text) := by
  have visible : step.text.isEmpty = false := by
    cases text : step.text with
    | nil => exact absurd text present
    | cons => rfl
  rw [headLayout, visible, if_neg Bool.false_ne_true, Layout.indented]

theorem trim_headLayout_of_nil (head : step.HeadFrom language line) (empty : step.text = []) :
    Text.trim step.headLayout = line.trimmed := by
  rw [head.headLayout_of_nil empty, Text.trim_append_left (Text.isBlank_margin _)]
  exact Text.trim_trim line.text

theorem trim_headLayout_of_ne_nil (head : step.HeadFrom language line) (regular : language.Regular)
    (present : step.text ≠ []) : Text.trim step.headLayout = step.keyword ++ step.text := by
  have core : Trimmed (step.keyword ++ step.text) :=
    ⟨Text.startsSolid_append (regular.startsSolid head.listed)
        (Classification.opens_iff.mp head.opens).1,
      Text.endsSolid_append head.trimmed_text.2 present⟩
  rw [headLayout_of_ne_nil present, Text.trim_append_left (Text.isBlank_margin _),
    Text.trim_eq_self core]

theorem singleLine_headLayout (head : step.HeadFrom language line) : SingleLine step.headLayout := by
  by_cases present : step.text = []
  · rw [head.headLayout_of_nil present, Text.singleLine_append]
    exact ⟨Text.singleLine_margin _, head.single.trim⟩
  · rcases head.trimmed_cases with ⟨rest, whole, text⟩ | ⟨empty, -⟩
    · have single : SingleLine (step.keyword ++ rest) := by
        rw [← whole]
        exact head.single.trim
      rw [Text.singleLine_append] at single
      rw [headLayout_of_ne_nil present, text]
      simp only [Text.singleLine_append]
      exact ⟨Text.singleLine_margin _, single.1, single.2.trim⟩
    · exact absurd empty present

/-- The written line of a step has its keyword, or that of another step which extends it. -/
theorem classify_headLayout (head : step.HeadFrom language line) (regular : language.Regular)
    (number : Nat) :
    (⟨step.headLayout, number⟩ : Line).classify language = step.opener ∨
      (step.text ≠ [] ∧ ∃ longer ∈ Classification.candidates language,
        (⟨step.headLayout, number⟩ : Line).classify language = longer ∧
        longer.opens (step.keyword ++ step.text) = true ∧ longer.role.isStep = true ∧
        step.keyword <+: longer.keyword ∧ longer.keyword ≠ step.keyword) := by
  by_cases present : step.text = []
  · left
    rw [← head.classified]
    exact Classification.ofText_congr (head.trim_headLayout_of_nil present)
  · have written := head.trim_headLayout_of_ne_nil regular present
    rcases head.trimmed_cases with ⟨rest, whole, -⟩ | ⟨empty, -⟩
    · have own : Classification.ofText language line.text = step.opener := head.classified
      have isStep : (Classification.ofText language line.text).role.isStep = true := by
        rw [own]
        rfl
      have starts : (Classification.ofText language line.text).keyword <+: line.text.trim := by
        rw [own]
        exact ⟨rest, whole.symm⟩
      have again : (Classification.ofText language line.text).keyword <+: Text.trim step.headLayout := by
        rw [own, written]
        exact List.prefix_append _ _
      rcases regular.ofText_eq_or_isStep isStep starts again with
        same | ⟨listed, opened, other, longer, different⟩
      · exact .inl (same.trans own)
      · rw [own] at longer different
        rw [written] at opened
        exact .inr ⟨present, _, listed, rfl, opened, other, longer, different⟩
    · exact absurd empty present

/-- A step whose written line has its keyword is read back as it was. -/
theorem reread_eq_self (head : step.HeadFrom language line) (regular : language.Regular)
    (same : (⟨step.headLayout, 0⟩ : Line).classify language = step.opener) :
    step.reread language = step := by
  have text : step.opener.strip (Text.trim step.headLayout) = step.text := by
    by_cases present : step.text = []
    · rw [head.trim_headLayout_of_nil present]
      exact head.text
    · rw [head.trim_headLayout_of_ne_nil regular present]
      exact (Classification.strip_step rfl step.text).trans (Text.trim_eq_self head.trimmed_text)
  unfold reread
  simp only [same, opener, Line.textAfter, Line.trimmed]
  exact congrArg (fun text => { step with text := text }) text

/-- A step whose written line has a longer keyword is read back with that keyword and with
what it leaves of the text. -/
theorem reread_of_longer (head : step.HeadFrom language line) (regular : language.Regular)
    (present : step.text ≠ []) {longer : Classification}
    (same : (⟨step.headLayout, 0⟩ : Line).classify language = longer)
    (isStep : longer.role.isStep = true) :
    (step.reread language).keyword = longer.keyword ∧
      (step.reread language).text = longer.strip (step.keyword ++ step.text) := by
  have written := head.trim_headLayout_of_ne_nil regular present
  cases role : longer.role with
  | step kind =>
      unfold reread
      simp only [same, role, Line.textAfter, Line.trimmed, written, and_self]
  | _ => simp [role, Role.isStep] at isStep

/-- The written line of a step starts a step, which is the one that is read back. -/
theorem onLine?_headLayout {dialect : Dialect} (head : step.HeadFrom dialect.language line)
    (regular : dialect.language.Regular) (number : Nat) :
    ∃ location, Step.Draft.onLine? dialect ⟨step.headLayout, number⟩ =
      some ⟨(step.reread dialect.language).kind, (step.reread dialect.language).keyword,
        (step.reread dialect.language).text, location, none, none⟩ := by
  have isStep : ((⟨step.headLayout, 0⟩ : Line).classify dialect.language).role.isStep = true := by
    rcases head.classify_headLayout regular 0 with same | ⟨-, longer, -, same, -, isStep, -⟩
    · rw [same]
      rfl
    · rw [same]
      exact isStep
  cases role : ((⟨step.headLayout, 0⟩ : Line).classify dialect.language).role with
  | step kind =>
      have own : dialect.role ⟨step.headLayout, number⟩ = .step kind := role
      refine ⟨(⟨step.headLayout, number⟩ : Line).location, ?_⟩
      rw [Step.Draft.onLine?_of_role own]
      simp only [reread, role]
      rfl
  | _ => simp [role, Role.isStep] at isStep

end HeadFrom

end Step

end Gherkin
