import Gherkin.Proofs.Language.Directive
import Gherkin.Proofs.Reading.Independence
import Gherkin.Proofs.Writing.Features

namespace Gherkin

open Text (isSpace)

/-!
# The language of a written document

The reader takes the language from the first line, and from the default of its table
if that line names none.  The writer knows no table.  It leaves the directive out for
English and writes it for every other language, so a document in another language is
always read in this language again, whatever the default is.

The first line of an English document is its tags or its heading.  Tags are no
directive, and a heading is one only with a word for features that begins like a
comment.  Otherwise the document is read in the default language of the table, which
need not be English.
-/

/-! ## The active language -/

variable {languages : LanguageTable} {separators others : Separators}

/-- The active language is the one that the first line names, or the default one, whatever the
other lines are. -/
theorem Document.Reader.language_readAll_empty (settings : Settings) (texts : List Text) :
    ((empty settings).readAll settings (Line.numberFrom 1 texts)).1.language =
      (texts.head?.bind settings.languages.namedBy).getD settings.languages.defaultLanguage := by
  cases texts with
  | nil => rfl
  | cons first rest =>
      have later : ∀ line ∈ Line.numberFrom 2 rest, directive? line = none :=
        Line.directive?_numberFrom (Nat.lt_succ_self 1)
      rw [Line.numberFrom, readAll, language_readAll settings _ later, List.head?_cons, Option.bind_some]
      cases named : Language.directive? first with
      | none =>
          have undirected : directive? ⟨first, 1⟩ = none := (if_pos rfl).trans named
          rw [language_read settings _ undirected, LanguageTable.namedBy, named]
          rfl
      | some code =>
          have directed : directive? ⟨first, 1⟩ = some code := (if_pos rfl).trans named
          rw [LanguageTable.namedBy, named, read, directed, Option.bind_some]
          cases known : settings.languages.get? code <;> simp [chooseLanguage, known, empty, start]

/-- The language of a document with a feature is listed in the table. -/
theorem exists_language_of_accepted {uri : Text} {texts : List Text} {document : Document}
    {feature : Feature} (accepted : parseLines ⟨languages, separators⟩ uri texts = .ok document)
    (present : document.feature = some feature) :
    ∃ language, languages.get? feature.language = some language ∧ language.code = feature.language := by
  rcases parseLines_eq_ok_iff.mp accepted with ⟨language, lines, final, preamble, run, -, -, rfl⟩
  rcases Option.map_eq_some_iff.mp present with ⟨own, -, rfl⟩
  have code : (own.finish final.language.code).language = language.code :=
    congrArg Language.code run.language_eq
  rw [code]
  refine ⟨language, ?_, rfl⟩
  cases preamble with
  | directive named known => exact LanguageTable.get?_code known
  | absent unnamed => exact LanguageTable.get?_code languages.get?_defaultCode

/-! ## Written documents -/

/-- The language that the written heading names by accident.  Behind a line of tags it names none. -/
def Feature.namedByHeading (languages : LanguageTable) (feature : Feature) : Option Language :=
  if feature.tags.isEmpty then languages.namedBy (firstLine (feature.toHeading.layout 0)) else none

/-- A heading with an ordinary word names no language. -/
theorem Feature.namedByHeading_eq_none {feature : Feature} {first : Char} {rest : Text}
    (keyword : feature.keyword = first :: rest) (solid : isSpace first = false) (other : first ≠ '#')
    (unmarked : first ≠ byteOrderMark) : feature.namedByHeading languages = none := by
  have heading : ∃ behind, feature.toHeading.layout 0 = first :: behind := by
    simp [Heading.layout, Layout.indented, keyword]
  rcases heading with ⟨behind, same⟩
  rw [namedByHeading, same, LanguageTable.namedBy_firstLine_cons solid other unmarked, ite_self]

/-- The first line of a written feature names its language, unless it is written without a
directive. -/
theorem Feature.namedBy_layout (feature : Feature) (isCode : Language.IsCode feature.language) :
    (fileLines (Text.endLines feature.layout)).head?.bind languages.namedBy =
      if feature.language = Layout.impliedLanguage then feature.namedByHeading languages
      else languages.get? feature.language := by
  rw [Feature.layout_eq, Language.directiveLayout]
  split_ifs with implied
  · cases tags : feature.tags with
    | nil =>
        simp only [undirected, namedByHeading, tags, Tag.layout, List.isEmpty_nil, if_true,
          List.nil_append, List.singleton_append, head?_fileLines_endLines, Option.bind_some]
    | cons tag rest =>
        have spelled : ∃ behind, Tag.layout 0 (tag :: rest) = ['@' :: behind] := by
          cases rest <;> exact ⟨_, rfl⟩
        rcases spelled with ⟨behind, spelled⟩
        rw [undirected, namedByHeading, tags, spelled, List.nil_append, List.singleton_append,
          head?_fileLines_endLines, Option.bind_some]
        exact LanguageTable.namedBy_firstLine_cons (by decide) (by decide) (by decide) behind
  · rw [List.singleton_append, head?_fileLines_endLines, Option.bind_some,
      LanguageTable.namedBy_directive isCode]

/-- The language in which a written document is read, whatever the separators are. -/
theorem Document.Reader.language_readAll_format {uri : Text} {texts : List Text} {document : Document}
    {feature : Feature} (codes : ∀ code ∈ languages.codes, Language.IsCode code)
    (accepted : parseLines ⟨languages, separators⟩ uri texts = .ok document)
    (present : document.feature = some feature) :
    ((empty ⟨languages, others⟩).readAll ⟨languages, others⟩
        (Line.numberFrom 1 (fileLines document.format))).1.language.code =
      if feature.language = Layout.impliedLanguage then
        (feature.namedByHeading languages).elim languages.defaultCode Language.code
      else feature.language := by
  rcases exists_language_of_accepted accepted present with ⟨language, known, code⟩
  have isCode : Language.IsCode feature.language := by
    rw [← code]
    exact codes _ (List.mem_map_of_mem (List.mem_of_find?_eq_some known))
  have written : document.layout = feature.layout := by
    rw [Document.layout, present]
    rfl
  rw [language_readAll_empty, Document.format, written, Feature.namedBy_layout feature isCode]
  split_ifs with implied
  · cases feature.namedByHeading languages with
    | none => exact LanguageTable.code_eq languages.get?_defaultCode
    | some named => rfl
  · rw [known]
    exact code

/-- A document is read in its own language again exactly if this is not English, or if the heading
names English, or if it names no language and English is the default of the table. -/
theorem written_language_restored_iff {uri : Text} {texts : List Text} {document : Document}
    {feature : Feature} (codes : ∀ code ∈ languages.codes, Language.IsCode code)
    (accepted : parseLines ⟨languages, separators⟩ uri texts = .ok document)
    (present : document.feature = some feature) :
    ((Document.Reader.empty ⟨languages, others⟩).readAll ⟨languages, others⟩
        (Line.numberFrom 1 (fileLines document.format))).1.language.code = feature.language ↔
      (feature.language = Layout.impliedLanguage →
        (feature.namedByHeading languages).elim languages.defaultCode Language.code =
          Layout.impliedLanguage) := by
  rw [Document.Reader.language_readAll_format codes accepted present]
  split_ifs with implied
  · rw [implied]
    exact ⟨fun same _ => same, fun same => same rfl⟩
  · exact iff_of_true rfl fun same => absurd same implied

/-- A German document is restored where French is the default. -/
theorem german_language_restored : ∃ document feature,
    (∀ code ∈ (LanguageTable.ofLanguages .french [.german, .english]).codes, Language.IsCode code) ∧
    parseLines ⟨.ofLanguages .french [.german, .english], .standard⟩ []
      ["# language: de".toList, "Funktion: f".toList] = .ok document ∧
    document.feature = some feature ∧
    ((Document.Reader.empty ⟨.ofLanguages .french [.german, .english], .standard⟩).readAll
      ⟨.ofLanguages .french [.german, .english], .standard⟩
      (Line.numberFrom 1 (fileLines document.format))).1.language.code = "de".toList := by
  have codes : ∀ code ∈ (LanguageTable.ofLanguages .french [.german, .english]).codes,
      Language.IsCode code := by
    decide
  have read : ∃ document feature,
      parseLines ⟨.ofLanguages .french [.german, .english], .standard⟩ []
        ["# language: de".toList, "Funktion: f".toList] = .ok document ∧
      document.feature = some feature ∧ feature.language = "de".toList :=
    ⟨_, _, by rfl, rfl, rfl⟩
  rcases read with ⟨document, feature, accepted, present, german⟩
  refine ⟨document, feature, codes, accepted, present, ?_⟩
  exact ((written_language_restored_iff codes accepted present).mpr
    fun implied => absurd (german.symm.trans implied) (by decide)).trans german

/-- An English document is written without a directive, and is read as a French one where French is
the default. -/
theorem english_language_not_restored : ∃ document feature,
    (∀ code ∈ (LanguageTable.ofLanguages .french [.english]).codes, Language.IsCode code) ∧
    parseLines ⟨.ofLanguages .french [.english], .standard⟩ []
      ["# language: en".toList, "Feature: f".toList] = .ok document ∧
    document.feature = some feature ∧ feature.language = "en".toList ∧
    document.format = "Feature: f\n".toList ∧
    ((Document.Reader.empty ⟨.ofLanguages .french [.english], .standard⟩).readAll
      ⟨.ofLanguages .french [.english], .standard⟩
      (Line.numberFrom 1 (fileLines document.format))).1.language.code = "fr".toList := by
  refine ⟨_, _, by decide, by rfl, rfl, by rfl, by rfl, by rfl⟩

/-- With an ordinary heading, it is the default language alone that decides. -/
theorem written_language_iff_default {uri : Text} {texts : List Text} {document : Document}
    {feature : Feature} (codes : ∀ code ∈ languages.codes, Language.IsCode code)
    (accepted : parseLines ⟨languages, separators⟩ uri texts = .ok document)
    (present : document.feature = some feature) {first : Char} {rest : Text}
    (keyword : feature.keyword = first :: rest) (solid : isSpace first = false) (other : first ≠ '#')
    (unmarked : first ≠ byteOrderMark) :
    ((Document.Reader.empty ⟨languages, others⟩).readAll ⟨languages, others⟩
        (Line.numberFrom 1 (fileLines document.format))).1.language.code = feature.language ↔
      (feature.language = Layout.impliedLanguage → languages.defaultCode = Layout.impliedLanguage) := by
  rw [Document.Reader.language_readAll_format codes accepted present,
    Feature.namedByHeading_eq_none keyword solid other unmarked]
  split_ifs with implied <;> simp [implied]

end Gherkin
