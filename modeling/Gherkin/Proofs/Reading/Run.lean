import Gherkin.Proofs.Reading.Phases

namespace Gherkin

/-!
# Runs without faults

A document is handed out exactly if no line was at fault, no doc-string stayed
open and no tags stayed pending.  Such a run is a chain of steps of `place`:
the language directive is settled before it starts, the active language does
not change in it, and the number of the last line plays no part until the end
of the input is reported.  `parseLines_eq_ok_iff` brings the reader of whole
documents into this form, from which every statement about accepted documents
starts.
-/

/-- What the first line says about the language of a document: the active language
and the lines that are left to be read.  A directive has to name a language of the table. -/
inductive Preamble (languages : LanguageTable) : List Text → Language → List Line → Prop
  | directive {first : Text} {rest : List Text} {code : Text} {language : Language}
      (named : Language.directive? first = some code)
      (known : languages.get? code = some language) :
      Preamble languages (first :: rest) language (Line.numberFrom 2 rest)
  | absent {texts : List Text}
      (unnamed : ∀ first ∈ texts.head?, Language.directive? first = none) :
      Preamble languages texts languages.defaultLanguage (Line.numberFrom 1 texts)

namespace Document
namespace Draft

/-- The document of which no line was read, in the given language. -/
def start (language : Language) : Draft :=
  ⟨language, 0, [], none, none⟩

/-- A run in which every line is taken up without a fault. -/
inductive Reads (dialect : Dialect) : Draft → List Line → Draft → Prop
  | nil (draft : Draft) : Reads dialect draft [] draft
  | cons {draft next final : Draft} {line : Line} {rest : List Line}
      (taken : Takes dialect line draft next []) (later : Reads dialect next rest final) :
      Reads dialect draft (line :: rest) final

theorem Reads.append {dialect : Dialect} {draft middle final : Draft} {first second : List Line}
    (left : Reads dialect draft first middle) (right : Reads dialect middle second final) :
    Reads dialect draft (first ++ second) final := by
  induction left with
  | nil => exact right
  | cons taken later inductionHypothesis => exact .cons taken (inductionHypothesis right)

/-! ## What a step leaves alone -/

/-- The last line number is kept for the end of the input and decides on no line. -/
theorem Takes.withLastLine {dialect : Dialect} {line : Line} {draft next : Draft}
    {faults : List Fault} (taken : Takes dialect line draft next faults) (last : Nat) :
    Takes dialect line { draft with lastLine := last } { next with lastLine := last } faults := by
  cases taken with
  | comment outside role => exact .comment outside role
  | tag outside role => exact .tag outside role
  | blank outside white idle => exact .blank outside white idle
  | feature outside role absent => exact .feature outside role absent
  | background outside role present unclaimed inHeader =>
      exact .background outside role present unclaimed inHeader
  | scenario outside role present => exact .scenario outside role present
  | examples outside role present scenarios isOutline =>
      exact .examples outside role present scenarios isOutline
  | inner present routed taken => exact .inner present routed taken

/-- The active language stays the same. -/
theorem Takes.language_eq {dialect : Dialect} {line : Line} {draft next : Draft}
    {faults : List Fault} (taken : Takes dialect line draft next faults) :
    next.language = draft.language := by
  cases taken <;> rfl

theorem Reads.withLastLine {dialect : Dialect} {draft final : Draft} {lines : List Line}
    (run : Reads dialect draft lines final) (last : Nat) :
    Reads dialect { draft with lastLine := last } lines { final with lastLine := last } := by
  induction run with
  | nil => exact .nil _
  | cons taken later inductionHypothesis =>
      exact .cons (taken.withLastLine last) inductionHypothesis

theorem Reads.language_eq {dialect : Dialect} {draft final : Draft} {lines : List Line}
    (run : Reads dialect draft lines final) : final.language = draft.language := by
  induction run with
  | nil => rfl
  | cons taken later inductionHypothesis => exact inductionHypothesis.trans taken.language_eq

/-! ## Runs and the reader -/

variable {settings : Settings} {draft next : Draft} {line : Line} {lines : List Line}

theorem add_eq_nil_iff (undirected : directive? line = none) :
    draft.add settings line = (next, []) ↔
      Takes (settings.dialect draft.language) line { draft with lastLine := line.number } next [] := by
  rw [← place_eq_ok_iff]
  simp only [add, undirected, Reading.settle_eq_nil_iff]

/-- The lines of a run without faults are those that the reader adds without a fault. -/
theorem reads_of_addAll (undirected : ∀ line ∈ lines, directive? line = none)
    (faultless : (draft.addAll settings lines).2 = []) :
    ∃ final last, Reads (settings.dialect draft.language) draft lines final ∧
      (draft.addAll settings lines).1 = { final with lastLine := last } := by
  induction lines generalizing draft with
  | nil => exact ⟨draft, draft.lastLine, .nil draft, rfl⟩
  | cons line rest inductionHypothesis =>
      simp only [addAll, List.append_eq_nil_iff] at faultless ⊢
      have plain := undirected line List.mem_cons_self
      have taken := (add_eq_nil_iff plain).mp (Prod.ext rfl faultless.1)
      have same : (draft.add settings line).1.language = draft.language := taken.language_eq
      rcases inductionHypothesis
          (fun other listed => undirected other (List.mem_cons_of_mem _ listed)) faultless.2 with
        ⟨final, last, run, reached⟩
      rw [same] at run
      exact ⟨_, last, .cons (taken.withLastLine draft.lastLine) (run.withLastLine draft.lastLine),
        reached⟩

theorem addAll_of_reads (draft : Draft) {final : Draft}
    (undirected : ∀ line ∈ lines, directive? line = none)
    (run : Reads (settings.dialect draft.language) draft lines final) :
    ∃ last, draft.addAll settings lines = ({ final with lastLine := last }, []) := by
  induction lines generalizing draft final with
  | nil =>
      cases run
      exact ⟨draft.lastLine, rfl⟩
  | cons line rest inductionHypothesis =>
      cases run with
      | @cons _ next _ _ _ taken later =>
          have added : draft.add settings line = ({ next with lastLine := line.number }, []) :=
            (add_eq_nil_iff (undirected line List.mem_cons_self)).mpr (taken.withLastLine line.number)
          have same : next.language = draft.language := taken.language_eq
          rw [← same] at later
          have run : Reads (settings.dialect ({ next with lastLine := line.number } : Draft).language)
              { next with lastLine := line.number } rest { final with lastLine := line.number } :=
            later.withLastLine line.number
          rcases inductionHypothesis _
              (fun other listed => undirected other (List.mem_cons_of_mem _ listed)) run with
            ⟨last, reached⟩
          exact ⟨last, by simp [addAll, added, reached]⟩

end Draft
end Document

open Document.Draft (Reads start)

theorem Line.mem_of_mem_numberFrom {first : Nat} {texts : List Text} {line : Line}
    (listed : line ∈ Line.numberFrom first texts) : line.text ∈ texts := by
  induction texts generalizing first with
  | nil => cases listed
  | cons text rest inductionHypothesis =>
      rcases List.mem_cons.mp listed with rfl | listed
      · exact List.mem_cons_self
      · exact List.mem_cons_of_mem _ (inductionHypothesis listed)

/-- No line behind the first one can be a language directive. -/
theorem Line.directive?_numberFrom {first : Nat} {texts : List Text} (later : 1 < first) :
    ∀ line ∈ Line.numberFrom first texts, Document.directive? line = none := by
  induction texts generalizing first with
  | nil => simp [Line.numberFrom]
  | cons text rest inductionHypothesis =>
      intro line listed
      rcases List.mem_cons.mp listed with rfl | listed
      · exact if_neg (by simp only; omega)
      · exact inductionHypothesis (Nat.lt_succ_of_lt later) line listed

/-- Without a directive on the first line there is none at all. -/
theorem Line.directive?_of_unnamed {texts : List Text}
    (unnamed : ∀ first ∈ texts.head?, Language.directive? first = none) :
    ∀ line ∈ Line.numberFrom 1 texts, Document.directive? line = none := by
  cases texts with
  | nil => simp [Line.numberFrom]
  | cons text rest =>
      intro line listed
      rcases List.mem_cons.mp listed with rfl | listed
      · exact (if_pos rfl).trans (unnamed text rfl)
      · exact Line.directive?_numberFrom (Nat.lt_succ_self 1) line listed

theorem Report.outcome_eq_ok_iff {α : Type} {report : Report} {value given : α} :
    report.outcome value = .ok given ↔ report.faults = [] ∧ given = value := by
  unfold outcome
  split_ifs with faulty
  · simp [faulty, eq_comm]
  · simp [faulty]

theorem Document.Draft.endFaults_eq_nil_iff {draft : Document.Draft} :
    draft.endFaults = [] ↔ draft.inDocString = false ∧ draft.pending = none := by
  cases inside : draft.inDocString <;> cases pending : draft.pending <;>
    simp [endFaults, inside, pending]

/-- A directive that names a known language starts the run behind it. -/
private theorem addAll_of_directive {settings : Settings} {first : Text} {rest : List Text}
    {code : Text} {language : Language} (named : Language.directive? first = some code)
    (known : settings.languages.get? code = some language) :
    (Document.Draft.empty settings).addAll settings (Line.numberFrom 1 (first :: rest)) =
      ({ start language with lastLine := 1 } : Document.Draft).addAll settings
        (Line.numberFrom 2 rest) := by
  simp [Line.numberFrom, Document.Draft.addAll, Document.Draft.add, Document.directive?, named,
    Document.Draft.chooseLanguage, known, Document.Draft.empty, start]

/-- Once the language is settled, the rest of the lines is read in it and has no directive. -/
private theorem addAll_of_preamble {settings : Settings} {texts : List Text} {language : Language}
    {lines : List Line} (preamble : Preamble settings.languages texts language lines) :
    (∃ last, (Document.Draft.empty settings).addAll settings (Line.numberFrom 1 texts) =
      ({ start language with lastLine := last } : Document.Draft).addAll settings lines) ∧
    ∀ line ∈ lines, Document.directive? line = none := by
  cases preamble with
  | directive named known =>
      exact ⟨⟨1, addAll_of_directive named known⟩, Line.directive?_numberFrom (Nat.lt_succ_self 1)⟩
  | absent unnamed => exact ⟨⟨0, rfl⟩, Line.directive?_of_unnamed unnamed⟩

/-- The language stays unsettled only if a directive names one that is not in the table,
which is a fault. -/
private theorem exists_preamble {settings : Settings} {texts : List Text}
    (faultless : ((Document.Draft.empty settings).addAll settings (Line.numberFrom 1 texts)).2 = []) :
    ∃ language lines, Preamble settings.languages texts language lines := by
  cases texts with
  | nil => exact ⟨_, _, .absent nofun⟩
  | cons first rest =>
      cases named : Language.directive? first with
      | none =>
          refine ⟨_, _, .absent fun other found => ?_⟩
          cases found
          exact named
      | some code =>
          cases known : settings.languages.get? code with
          | some language => exact ⟨_, _, .directive named known⟩
          | none =>
              simp [Line.numberFrom, Document.Draft.addAll, Document.Draft.add,
                Document.directive?, named, Document.Draft.chooseLanguage, known] at faultless

private theorem parseLines_eq_ok_iff_addAll {settings : Settings} {uri : Text} {texts : List Text}
    {document : Document} {draft : Document.Draft} {faults : List Fault}
    (read : (Document.Draft.empty settings).addAll settings (Line.numberFrom 1 texts) = (draft, faults)) :
    parseLines settings uri texts = .ok document ↔
      faults = [] ∧ draft.inDocString = false ∧ draft.pending = none ∧ document = draft.finish uri := by
  simp [parseLines, readDocument_eq, read, Report.outcome_eq_ok_iff, Report.add, Report.empty,
    Document.Draft.endFaults_eq_nil_iff, and_assoc]

/-- A document is handed out exactly if its lines form a run without faults that leaves
no doc-string open and no tags pending. -/
theorem parseLines_eq_ok_iff {settings : Settings} {uri : Text} {texts : List Text}
    {document : Document} :
    parseLines settings uri texts = .ok document ↔
      ∃ language lines final, Preamble settings.languages texts language lines ∧
        Reads (settings.dialect language) (start language) lines final ∧
        final.inDocString = false ∧ final.pending = none ∧ document = final.finish uri := by
  constructor
  · intro accepted
    generalize read : (Document.Draft.empty settings).addAll settings (Line.numberFrom 1 texts) = reached
    rcases reached with ⟨draft, faults⟩
    rcases (parseLines_eq_ok_iff_addAll read).mp accepted with ⟨rfl, closed, unclaimed, rfl⟩
    rcases exists_preamble (congrArg Prod.snd read) with ⟨language, lines, preamble⟩
    rcases addAll_of_preamble preamble with ⟨⟨first, same⟩, undirected⟩
    rw [same] at read
    rcases Document.Draft.reads_of_addAll undirected (congrArg Prod.snd read) with
      ⟨final, last, run, reached⟩
    rw [read] at reached
    cases reached
    exact ⟨language, lines, _, preamble, run.withLastLine 0, closed, unclaimed, rfl⟩
  · rintro ⟨language, lines, final, preamble, run, closed, unclaimed, rfl⟩
    rcases addAll_of_preamble preamble with ⟨⟨first, same⟩, undirected⟩
    rcases Document.Draft.addAll_of_reads { start language with lastLine := first } undirected
      (run.withLastLine first) with ⟨last, reached⟩
    rw [← same] at reached
    exact (parseLines_eq_ok_iff_addAll reached).mpr ⟨rfl, closed, unclaimed, rfl⟩

end Gherkin
