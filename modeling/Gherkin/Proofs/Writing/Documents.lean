import Gherkin.Proofs.Language.Directive
import Gherkin.Proofs.Writing.Features

namespace Gherkin

open Text (SingleLine)

/-!
# Written documents are read back

A document that was read is written with a directive for its language, unless
that is the one assumed without a directive.  The written text is read in the same
language and without a fault.  It gives the document of which every step was read
back from its own first line; nothing else in the document changes but its places
and comments.
-/

/-- The document that is read where the given one was written. -/
def Document.reread (language : Language) (document : Document) : Document :=
  { document with feature := document.feature.map (Feature.reread language) }

/-! ## The language of a written document -/

/-- The directive for a language of the library is one line and chooses this language. -/
theorem LanguageTable.directive_of_builtin :
    ∀ language ∈ LanguageTable.builtin.entries,
      Language.directive? ("# language: ".toList ++ language.code) = some language.code ∧
        LanguageTable.builtin.get? language.code = some language ∧
        SingleLine ("# language: ".toList ++ language.code) ∧
        (language.code = Layout.impliedLanguage →
          language = LanguageTable.builtin.defaultLanguage) := by
  decide +kernel

theorem Preamble.mem_entries {languages : LanguageTable} {texts : List Text} {language : Language}
    {lines : List Line} (preamble : Preamble languages texts language lines) :
    language ∈ languages.entries := by
  cases preamble with
  | directive named known => exact List.mem_of_find?_eq_some known
  | absent unnamed => exact List.mem_of_find?_eq_some languages.get?_defaultCode

theorem Preamble.mem_texts {languages : LanguageTable} {texts : List Text} {language : Language}
    {lines : List Line} (preamble : Preamble languages texts language lines) {line : Line}
    (listed : line ∈ lines) : line.text ∈ texts := by
  cases preamble with
  | directive named known => exact List.mem_cons_of_mem _ (Line.mem_of_mem_numberFrom listed)
  | absent unnamed => exact Line.mem_of_mem_numberFrom listed

/-! ## Runs over written lines -/

namespace Document.Draft

variable {dialect : Dialect} {draft final : Document.Draft} {after : Document.Draft → Prop}

theorem reads_of_yields {texts : List Text} (yields : Yields (Continues dialect) after texts draft)
    (first : Nat) :
    ∃ final, Reads dialect draft (Line.numberFrom first texts) final ∧ after final := by
  induction texts generalizing draft first with
  | nil => exact ⟨draft, .nil draft, yields⟩
  | cons text rest inductionHypothesis =>
      rcases yields.2 first with ⟨next, taken, further⟩
      rcases inductionHypothesis further (first + 1) with ⟨final, run, reached⟩
      exact ⟨final, .cons taken run, reached⟩

end Document.Draft

/-! ## The first line -/

variable {dialect : Dialect} {own : Feature.Draft}

/-- A written feature starts with a line of tags or with its heading. -/
theorem Feature.Draft.Legible.exists_first (legible : own.Legible dialect)
    (regular : dialect.language.Regular) (code : Text) :
    ∃ first, (own.finish code).undirected.head? = some first ∧
      (dialect.role ⟨first, 0⟩ = .tag ∨ dialect.role ⟨first, 0⟩ = .feature) := by
  cases tags : own.tags with
  | nil =>
      have heading := legible.heading.role_layout regular rfl 0 0
      refine ⟨own.heading.layout 0, ?_, .inr heading⟩
      simp [Feature.undirected, finish, tags, Tag.layout]
  | cons tag others =>
      have marked := Document.Draft.role_spelled regular tag others 0 0
      refine ⟨List.replicate 0 ' ' ++ Tag.spelled (tag :: others), ?_, .inl marked⟩
      simp only [Feature.undirected, finish, tags]
      rfl

/-- Neither a directive nor a byte-order mark is found at the start of a written feature. -/
theorem unmarked_of_role {text : Text} (regular : dialect.language.Regular)
    (role : dialect.role ⟨text, 0⟩ = .tag ∨ dialect.role ⟨text, 0⟩ = .feature) :
    Language.directive? text = none ∧ text.head? ≠ some byteOrderMark := by
  constructor
  · rw [Option.eq_none_iff_forall_ne_some]
    intro code named
    have comment : dialect.role ⟨text, 0⟩ = .comment :=
      regular.comment_of_hash (Language.head?_of_directive? named)
    rw [comment] at role
    rcases role with role | role <;> cases role
  · intro starts
    have solid : Text.isSpace byteOrderMark = false := by decide
    have plain : dialect.role ⟨text, 0⟩ = .plain := by
      cases text with
      | nil => cases starts
      | cons first rest =>
          cases starts
          have kept : (Text.trim ([] ++ byteOrderMark :: rest)).head? = some byteOrderMark :=
            Text.head?_trim Text.isBlank_nil solid
          exact regular.plain_of_quote kept (by decide)
    rw [plain] at role
    rcases role with role | role <;> cases role

/-- A written feature chooses the language in which it was read. -/
theorem Preamble.of_builtin {language : Language}
    (listed : language ∈ LanguageTable.builtin.entries) {texts : List Text}
    (unnamed : ∀ first ∈ texts.head?, Language.directive? first = none) :
    ∃ first, Preamble .builtin (Language.directiveLayout language.code ++ texts) language
      (Line.numberFrom first texts) := by
  rcases LanguageTable.directive_of_builtin language listed with ⟨named, known, -, implied⟩
  unfold Language.directiveLayout
  split_ifs with assumed
  · refine ⟨1, ?_⟩
    rw [implied assumed]
    exact .absent unnamed
  · exact ⟨2, .directive named known⟩

/-! ## Documents -/

/-- A legible feature is written line by line. -/
theorem Feature.Draft.Legible.singleLine_layout {language : Language}
    (listed : language ∈ LanguageTable.builtin.entries) (legible : own.Legible ⟨language, .standard⟩) :
    ∀ text ∈ (own.finish language.code).layout, SingleLine text := by
  intro text among
  rcases LanguageTable.directive_of_builtin language listed with ⟨-, -, directive, -⟩
  rw [Feature.layout_eq] at among
  rcases List.mem_append.mp among with head | among
  · simp only [Language.directiveLayout] at head
    split_ifs at head
    · cases head
    · rw [List.mem_singleton.mp head]
      exact directive
  · exact (legible.yields (LanguageTable.regular_of_builtin language listed) rfl).singleLine text among

/-- A legible feature is read back from its written form. -/
theorem Feature.Draft.Legible.exists_parse {language : Language}
    (listed : language ∈ LanguageTable.builtin.entries) (legible : own.Legible ⟨language, .standard⟩)
    (uri : Text) :
    ∃ again : Feature, parse .standard uri (Text.endLines (own.finish language.code).layout) =
        .ok ⟨uri, [], some again⟩ ∧
      again.erased = ((own.finish language.code).reread language).erased := by
  have regular : language.Regular := LanguageTable.regular_of_builtin language listed
  have yields := legible.yields regular rfl
  rcases legible.exists_first regular language.code with ⟨first, starts, role⟩
  rcases unmarked_of_role regular role with ⟨undirected, unmarked⟩
  have unnamed : ∀ other ∈ (own.finish language.code).undirected.head?,
      Language.directive? other = none := by
    intro other found
    rw [starts] at found
    cases found
    exact undirected
  have lines : fileLines (Text.endLines (own.finish language.code).layout) =
      (own.finish language.code).layout := by
    refine fileLines_endLines (legible.singleLine_layout listed) (head?_endLines ?_)
    intro other found
    rw [Feature.layout_eq] at found
    simp only [Language.directiveLayout] at found
    split_ifs at found
    · rw [List.nil_append, starts] at found
      cases found
      exact unmarked
    · cases found
      have mark : ("# language: ".toList ++ (own.finish language.code).language).head? = some '#' := rfl
      rw [mark]
      decide
  rcases Preamble.of_builtin listed unnamed with ⟨number, preamble⟩
  rcases Document.Draft.reads_of_yields yields number with ⟨final, run, inOutline, next, holds, rfl⟩
  refine ⟨next.finish language.code, ?_, holds.content⟩
  rw [parse, lines, Feature.layout_eq]
  exact parseLines_eq_ok_iff.mpr ⟨language, _, _, preamble, run, holds.outside, rfl, rfl⟩

/-- The steps of a legible feature are those that their lines started. -/
theorem Feature.Draft.Legible.exists_head (legible : own.Legible dialect) (code : Text) :
    ∀ step ∈ (own.finish code).steps, ∃ line, step.HeadFrom dialect.language line := by
  have inBody {body : Body.Draft} (good : body.Legible dialect) :
      ∀ step ∈ body.steps.finish, ∃ line, step.HeadFrom dialect.language line := by
    intro step among
    rcases List.mem_map.mp among with ⟨draft, given, rfl⟩
    exact (good.steps draft (List.mem_reverse.mp given)).head
  intro step among
  rcases List.mem_append.mp among with among | among
  · cases present : own.background with
    | none => simp [finish, present] at among
    | some background =>
        have given : step ∈ background.body.steps.finish := by
          simpa [finish, present, Background.Draft.finish] using among
        exact inBody (legible.background background present).body step given
  · rcases List.mem_flatMap.mp among with ⟨scenario, listed, given⟩
    rcases List.mem_map.mp listed with ⟨draft, kept, rfl⟩
    exact inBody (legible.scenarios draft (List.mem_reverse.mp kept)).body step given

/-- The feature of an accepted document is legible in the language of the document. -/
theorem exists_legible_of_accepted {uri source : Text} {document : Document}
    (accepted : parse .standard uri source = .ok document) :
    ∃ language lines, Preamble .builtin (fileLines source) language lines ∧
      document.uri = uri ∧ ∀ feature ∈ document.feature, ∃ own : Feature.Draft,
        own.Legible ⟨language, .standard⟩ ∧ feature = own.finish language.code := by
  rcases parseLines_eq_ok_iff.mp accepted with ⟨language, lines, final, preamble, run, -, -, rfl⟩
  have single : ∀ line ∈ lines, SingleLine line.text := fun line listed =>
    singleLine_of_mem_fileLines (preamble.mem_texts listed)
  have legible := run.legible rfl single (Document.Draft.legible_start _ language)
  refine ⟨language, lines, preamble, rfl, ?_⟩
  intro feature given
  rcases Option.map_eq_some_iff.mp given with ⟨own, present, rfl⟩
  refine ⟨own, legible.feature own present, ?_⟩
  exact congrArg (fun active : Language => own.finish active.code) run.language_eq

/-- An accepted document is written line by line. -/
theorem singleLine_layout_of_accepted {uri source : Text} {document : Document}
    (accepted : parse .standard uri source = .ok document) :
    ∀ text ∈ document.layout, SingleLine text := by
  rcases exists_legible_of_accepted accepted with ⟨language, lines, preamble, -, legible⟩
  intro text among
  cases present : document.feature with
  | none =>
      rw [Document.layout, present] at among
      cases among
  | some feature =>
      rw [Document.layout, present] at among
      rcases legible feature present with ⟨own, good, rfl⟩
      exact good.singleLine_layout preamble.mem_entries text among

/-- An accepted document is written so that it is accepted again, and what is read then is
the document with every step read back from its own first line. -/
theorem exists_parse_format {uri source : Text} {document : Document}
    (accepted : parse .standard uri source = .ok document) :
    ∃ language lines, Preamble .builtin (fileLines source) language lines ∧
      (∀ feature ∈ document.feature, ∀ step ∈ feature.steps,
        ∃ line, step.HeadFrom language line) ∧
      ∃ again, parse .standard uri document.format = .ok again ∧
        again.erased = (document.reread language).erased := by
  rcases exists_legible_of_accepted accepted with ⟨language, lines, preamble, same, legible⟩
  refine ⟨language, lines, preamble, ?_, ?_⟩
  · intro feature given
    rcases legible feature given with ⟨own, good, rfl⟩
    exact good.exists_head language.code
  · cases present : document.feature with
    | none =>
        refine ⟨⟨uri, [], none⟩, ?_, ?_⟩
        · rw [Document.format, Document.layout, present]
          rfl
        · rw [Document.erased, Document.erased, Document.reread, present, same]
          rfl
    | some feature =>
        rcases legible feature present with ⟨own, good, rfl⟩
        rcases good.exists_parse preamble.mem_entries uri with ⟨again, read, content⟩
        refine ⟨⟨uri, [], some again⟩, ?_, ?_⟩
        · rw [Document.format, Document.layout, present]
          exact read
        · rw [Document.erased, Document.erased, Document.reread, present, same]
          simp only [Option.map_some, content]

end Gherkin
