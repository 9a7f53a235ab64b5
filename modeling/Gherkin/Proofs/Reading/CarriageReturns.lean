import Gherkin.Proofs.Reading.Correspondence
import Gherkin.Proofs.Reading.Legible

namespace Gherkin

/-!
# Carriage returns

A carriage return at the end of a line is whitespace there, so outside of
doc-strings lines that end in one are read like lines that do not.  The lines of
a doc-string keep it: it is no part of the indentation, and no separator is
escaped across it.
-/

/-- The text with a carriage return at its end. -/
def Text.withReturn (text : Text) : Text :=
  text ++ ['\r']

/-- The doc-string with a carriage return at the end of each line of its content.  Empty content
has no lines. -/
def DocString.withReturns (docString : DocString) : DocString :=
  if docString.content = [] then docString
  else { docString with content := Text.joinLines ((Text.lines docString.content).map Text.withReturn) }

/-- The doc-string in progress with a carriage return at the end of each line of its body. -/
def DocString.Draft.withReturns (docString : DocString.Draft) : DocString.Draft :=
  { docString with body := docString.body.map Text.withReturn }

/-! ## Lines -/

namespace Text

@[simp] theorem isBlank_withReturn (text : Text) : text.withReturn.isBlank = text.isBlank := by
  rw [withReturn, isBlank_append, show isBlank ['\r'] = true by decide, Bool.and_true]

end Text

theorem Line.alike_withReturn {text : Text} (absent : '\r' ∉ text) (number : Nat) :
    Line.Alike ⟨text, number⟩ ⟨text.withReturn, number⟩ where
  number_eq := rfl
  trimEnd_eq := Text.trimEnd_append_of_isBlank (by decide) text
  comment_eq := by
    have stripped : ['\r'].isSuffixOf? text.withReturn = some text := by
      simp [List.isSuffixOf?, Text.withReturn, List.isPrefixOf?]
    have none : ['\r'].isSuffixOf? text = none := by
      rw [List.isSuffixOf?, Option.map_eq_none_iff]
      cases reversed : text.reverse with
      | nil => rfl
      | cons last before =>
          have listed : last ∈ text := List.mem_reverse.mp (reversed ▸ List.mem_cons_self)
          have different : '\r' ≠ last := fun same => absent (same ▸ listed)
          simp [List.isPrefixOf?, different]
    simp only [Comment.onLine, stripped, none]
    rfl

/-! ## Doc-strings -/

namespace DocString

variable {separator text : Text} {mark : Char}

theorem Triple.unescape_withReturn (triple : Triple separator mark) (text : Text) :
    unescape separator text.withReturn = (unescape separator text).withReturn := by
  have unlike : '\r' ≠ mark := by
    rintro rfl
    exact absurd triple.solid (by decide)
  have absent : '\r' ∉ ['\\', mark, '\\', mark, '\\', mark] := by simp [unlike]
  have replaced := (triple.unescape_replaces text).concat (List.cons_ne_nil _ _) absent
  calc
    unescape separator text.withReturn =
        Text.replaceAll ['\\', mark, '\\', mark, '\\', mark] [mark, mark, mark] (text ++ ['\r']) := by
      rw [unescape, triple.escaped_eq, triple.eq, Text.withReturn]
    _ = (unescape separator text).withReturn := (replaced.eq_replaceAll (List.cons_ne_nil _ _)).symm

theorem Opening.bodyLine_withReturn {opening : Opening} (triple : Triple opening.separator mark)
    (text : Text) : opening.bodyLine text.withReturn = (opening.bodyLine text).withReturn := by
  cases white : text.isBlank with
  | true => simp [bodyLine, white]
  | false =>
      have unindented : Text.unindent opening.indent text.withReturn =
          (Text.unindent opening.indent text).withReturn :=
        Text.unindent_append_right white opening.indent ['\r']
      simp [bodyLine, white, unindented, triple.unescape_withReturn]

namespace Draft

theorem unnoticed_withReturns : Unnoticed withReturns where
  isOpen_eq _ := rfl
  opening_eq _ := rfl

theorem follows_withReturn {docString : Draft} (triple : Triple docString.opening.separator mark)
    (number : Nat) :
    docString.Follows withReturns id ⟨text, number⟩ ⟨text.withReturn, number⟩ := by
  rintro _ rfl
  have closing : Line.startsWith ⟨text.withReturn, number⟩ docString.opening.separator =
      Line.startsWith ⟨text, number⟩ docString.opening.separator := by
    rw [Line.startsWith, Line.startsWith, Line.trimmed, Line.trimmed, Text.withReturn,
      Text.trim_append_right (by decide)]
  simp only [id, add, withReturns, closing, docString.opening.bodyLine_withReturn triple]
  split_ifs <;> rfl

theorem finish_withReturns {docString : Draft} (single : ∀ text ∈ docString.body, Text.SingleLine text) :
    docString.withReturns.finish = docString.finish.withReturns := by
  have inner : Text.innerLines (docString.body.map Text.withReturn).reverse =
      (Text.innerLines docString.body.reverse).map Text.withReturn := by
    rw [← List.map_reverse, Text.innerLines_map Text.isBlank_withReturn]
  have singles : ∀ text ∈ Text.innerLines docString.body.reverse, Text.SingleLine text :=
    fun text listed => single text (List.mem_reverse.mp (Text.mem_of_mem_innerLines listed))
  simp only [finish, withReturns, DocString.withReturns, inner, Text.joinLines_innerLines_eq_nil_iff]
  split_ifs with none
  · rw [none, List.map_nil]
  · rw [Text.lines_joinLines singles none]

end Draft

end DocString

/-! ## Documents -/

namespace Document.Draft

variable {draft : Draft}

/-- No run puts anything into a doc-string that a single line could not have put there. -/
theorem legible_docStrings_addAll (languages : LanguageTable) {dialect : Dialect} (lines : List Line)
    (single : ∀ line ∈ lines, Text.SingleLine line.text) (standard : dialect.separators = .standard)
    (before : ∀ docString ∈ draft.docStrings, docString.Legible dialect) :
    ∀ docString ∈ (draft.addAll ⟨languages, .standard⟩ lines).1.docStrings, docString.Legible dialect := by
  refine forall_docStrings_addAll ?_ ?_ before
  · intro line listed opening opens
    rw [← standard] at opens
    exact DocString.Draft.legible_opening (single line listed) opens
  · intro line listed docString legible
    exact legible.add standard (single line listed)

/-- The lines with carriage returns are read side by side with those without. -/
theorem admitsAll_withReturn (languages : LanguageTable) {dialect : Dialect} (first : Nat)
    {texts : List Text} (clean : ∀ text ∈ texts, '\r' ∉ text ∧ Text.SingleLine text)
    (standard : dialect.separators = .standard)
    (legible : ∀ docString ∈ draft.docStrings, docString.Legible dialect) :
    draft.AdmitsAll DocString.Draft.withReturns id ⟨languages, .standard⟩ (Line.numberFrom first texts)
      (Line.numberFrom first (texts.map Text.withReturn)) := by
  induction texts generalizing draft first with
  | nil => exact .nil draft
  | cons text rest inductionHypothesis =>
      have own := clean text List.mem_cons_self
      have alike := Line.alike_withReturn own.1 first
      refine .cons ⟨rfl, alike.directive?_eq, fun _ => alike, ?_⟩ (inductionHypothesis (first + 1) ?_ ?_)
      · intro docString opened
        rcases (legible docString (mem_docStrings_of_opened opened)).separator with ⟨trimmed, found⟩
        rw [standard] at found
        rcases DocString.exists_triple_of_standard found with ⟨mark, triple⟩
        exact DocString.Draft.follows_withReturn triple first
      · exact fun other listed => clean other (List.mem_cons_of_mem _ listed)
      · exact legible_docStrings_addAll languages [⟨text, first⟩]
          (fun _ listed => List.mem_singleton.mp listed ▸ own.2) standard legible

end Document.Draft

theorem Report.outcome_map {α β : Type} (change : α → β) (report : Report) (value : α) :
    report.outcome (change value) = (report.outcome value).map change := by
  unfold outcome
  split_ifs <;> rfl

/-- A carriage return at the end of every line makes no difference to what is accepted, to the
faults that are noted, or to the document, except that it ends every line of every doc-string. -/
theorem parseLines_withReturns (languages : LanguageTable) (uri : Text) {texts : List Text}
    (clean : ∀ text ∈ texts, '\r' ∉ text ∧ '\n' ∉ text) :
    parseLines ⟨languages, .standard⟩ uri (texts.map Text.withReturn) =
      (parseLines ⟨languages, .standard⟩ uri texts).map
        (Document.mapDocStrings DocString.withReturns) := by
  let dialect : Dialect := ⟨languages.defaultLanguage, .standard⟩
  have none : ∀ docString ∈ (Document.Draft.empty ⟨languages, .standard⟩).docStrings,
      docString.Legible dialect :=
    fun _ listed => absurd listed List.not_mem_nil
  have single : ∀ line ∈ Line.numberFrom 1 texts, Text.SingleLine line.text :=
    fun line listed => (clean line.text (Line.mem_of_mem_numberFrom listed)).2
  have legible := Document.Draft.legible_docStrings_addAll languages _ single rfl none
  have admits := Document.Draft.admitsAll_withReturn languages 1 clean rfl none
  rcases readDocument_eq_of_admitsAll uri DocString.Draft.unnoticed_withReturns
    DocString.Draft.unnoticed_id admits with ⟨drafts, reports⟩
  rw [Document.Draft.mapDocStrings_id] at drafts
  have documents : (readDocument ⟨languages, .standard⟩ uri
        (Line.numberFrom 1 (texts.map Text.withReturn))).1 =
      (readDocument ⟨languages, .standard⟩ uri (Line.numberFrom 1 texts)).1.mapDocStrings
        DocString.withReturns := by
    simp only [readDocument_eq, drafts]
    exact Document.Draft.finish_mapDocStrings uri fun docString listed =>
      DocString.Draft.finish_withReturns (legible docString listed).single
  simp only [parseLines, documents, reports, Report.outcome_map]

/-- The separators of a doc-string are found, and its line keeps the carriage return. -/
theorem docString_line_keeps_return :
    parseLines .standard [] ((["Feature: f", "Scenario: s", "Given x", "```", "text", "```"].map
        String.toList).map Text.withReturn) =
      (parseLines .standard [] (["Feature: f", "Scenario: s", "Given x", "```", "text", "```"].map
        String.toList)).map (Document.mapDocStrings DocString.withReturns) :=
  parseLines_withReturns .builtin [] (by decide +kernel)

end Gherkin
