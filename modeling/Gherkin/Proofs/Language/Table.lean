import Gherkin.Language.Table
import Gherkin.Proofs.Language.Directive
import Mathlib.Data.Char
import Mathlib.Data.List.Lex

namespace Gherkin

/-!
# Language tables and their history

A table answers as if it remembered every language that was ever put into it: under
each code it finds the last one.  The default language takes part in this like any
other, so it may be replaced by a later language with its code, and it is still the
default then.  What cannot happen is that its code is no longer found.

One addition keeps two facts.  The entries are in the strict order of their codes,
so that no code is listed twice, and looking up a code gives the last language that
was put in under it.  Everything else about a table follows from these two.
-/

/-- The order of codes is the lexicographic order of texts by scalar value. -/
theorem Text.before_iff_lt {first second : Text} : first.before second = true ↔ first < second := by
  fun_induction Text.before first second with
  | case1 first => simp
  | case2 other others => simp
  | case3 rest other others inductionHypothesis =>
      rw [inductionHypothesis, List.cons_lt_cons_iff]
      simp
  | case4 first rest other others different =>
      rw [decide_eq_true_eq, List.cons_lt_cons_iff]
      simp only [different, false_and, or_false]
      exact Iff.rfl

/-! ## Entries in order -/

namespace Language

variable {language added : Language} {languages : List Language}

/-- Languages in the strict order of their codes. -/
def Sorted (languages : List Language) : Prop :=
  languages.Pairwise fun first second => first.code < second.code

theorem eq_or_mem_of_mem_insert (listed : language ∈ insert added languages) :
    language = added ∨ language ∈ languages := by
  induction languages with
  | nil => exact .inl (List.mem_singleton.mp listed)
  | cons first rest inductionHypothesis =>
      rw [insert] at listed
      split_ifs at listed with replaced earlier
      · exact (List.mem_cons.mp listed).imp_right (List.mem_cons_of_mem first)
      · exact List.mem_cons.mp listed
      · rcases List.mem_cons.mp listed with rfl | listed
        · exact .inr List.mem_cons_self
        · exact (inductionHypothesis listed).imp_right (List.mem_cons_of_mem first)

/-- An addition keeps the order. -/
theorem Sorted.insert (sorted : Sorted languages) (added : Language) :
    Sorted (insert added languages) := by
  induction languages with
  | nil => exact List.pairwise_singleton _ _
  | cons first rest inductionHypothesis =>
      rcases List.pairwise_cons.mp sorted with ⟨least, sortedRest⟩
      rw [Language.insert]
      split_ifs with replaced earlier
      · exact List.pairwise_cons.mpr ⟨fun other listed => replaced ▸ least other listed, sortedRest⟩
      · have less : added.code < first.code := Text.before_iff_lt.mp earlier
        refine List.pairwise_cons.mpr ⟨fun other listed => ?_, sorted⟩
        rcases List.mem_cons.mp listed with rfl | listed
        · exact less
        · exact less.trans (least other listed)
      · have less : first.code < added.code :=
          lt_of_le_of_ne (not_lt.mp fun less => earlier (Text.before_iff_lt.mpr less)) replaced
        refine List.pairwise_cons.mpr ⟨fun other listed => ?_, inductionHypothesis sortedRest⟩
        rcases eq_or_mem_of_mem_insert listed with rfl | listed
        · exact less
        · exact least other listed

/-- No entry hides another one: each is found under its own code. -/
theorem Sorted.find?_code (sorted : Sorted languages) (listed : language ∈ languages) :
    find? language.code languages = some language := by
  induction languages with
  | nil => cases listed
  | cons first rest inductionHypothesis =>
      rcases List.pairwise_cons.mp sorted with ⟨least, sortedRest⟩
      unfold find? at inductionHypothesis ⊢
      rcases List.mem_cons.mp listed with rfl | listed
      · exact List.find?_cons_of_pos (decide_eq_true rfl)
      · rw [List.find?_cons_of_neg (by simpa using (least language listed).ne)]
        exact inductionHypothesis sortedRest listed

theorem isSome_find?_iff {code : Text} :
    (find? code languages).isSome = true ↔ code ∈ languages.map Language.code := by
  simp [find?, List.find?_isSome]

end Language

/-! ## What is found -/

namespace LanguageTable

variable {table : LanguageTable} {inserted : List Language}

/-- The table answers as if it remembered these languages in the order in which they were put in. -/
structure Holds (table : LanguageTable) (inserted : List Language) : Prop where
  sorted : Language.Sorted table.entries
  last : ∀ code, table.get? code = (inserted.filter fun language => language.code = code).getLast?

theorem holds_singleton (language : Language) : (singleton language).Holds [language] where
  sorted := List.pairwise_singleton _ _
  last code := by
    by_cases same : language.code = code <;> simp [get?, singleton, Language.find?, same]

/-- One more language is the last one with its code, and changes nothing under the other codes. -/
theorem Holds.insert (holds : table.Holds inserted) (language : Language) :
    (table.insert language).Holds (inserted ++ [language]) where
  sorted := holds.sorted.insert language
  last code := by
    have found : (table.insert language).get? code =
        if language.code = code then some language else table.get? code :=
      Language.find?_insert language code table.entries
    rw [found, List.filter_append]
    by_cases same : language.code = code
    · simp [same]
    · simp [same, holds.last code]

/-- The same holds of any number of languages, put in one after the other. -/
theorem Holds.insertAll (holds : table.Holds inserted) (added : List Language) :
    (added.foldl LanguageTable.insert table).Holds (inserted ++ added) := by
  induction added generalizing table inserted with
  | nil => rwa [List.append_nil]
  | cons language rest inductionHypothesis =>
      rw [List.foldl_cons, List.append_cons]
      exact inductionHypothesis (holds.insert language)

theorem holds_ofLanguages (language : Language) (others : List Language) :
    (ofLanguages language others).Holds (language :: others) :=
  (holds_singleton language).insertAll others

/-- No addition makes another language the default. -/
theorem defaultCode_insertAll (table : LanguageTable) (added : List Language) :
    (added.foldl LanguageTable.insert table).defaultCode = table.defaultCode := by
  induction added generalizing table with
  | nil => rfl
  | cons language rest inductionHypothesis => exact inductionHypothesis (table.insert language)

/-- The codes of a table are those that were put in. -/
theorem Holds.mem_codes_iff (holds : table.Holds inserted) {code : Text} :
    code ∈ table.codes ↔ ∃ language ∈ inserted, language.code = code := by
  rw [codes, ← Language.isSome_find?_iff, ← get?, holds.last code, List.getLast?_isSome, ne_eq,
    List.filter_eq_nil_iff]
  simp

/-- Whatever is put into a table, and in whatever order: under each code the last language with it
is found, so every entry is found under its own code; the codes are those that were put in, each
listed once and in order; and the default language is found under the code that was the first
one's. -/
theorem last_insertion_wins (language : Language) (others added : List Language) :
    let table := added.foldl LanguageTable.insert (ofLanguages language others)
    let inserted := language :: (others ++ added)
    (∀ code, table.get? code = (inserted.filter fun entry => entry.code = code).getLast?) ∧
    (∀ entry ∈ table.entries, table.get? entry.code = some entry) ∧
    table.codes.Pairwise (· < ·) ∧
    (∀ code, code ∈ table.codes ↔ ∃ entry ∈ inserted, entry.code = code) ∧
    table.defaultCode = language.code ∧
    table.get? table.defaultCode = some table.defaultLanguage ∧
    table.defaultLanguage.code = table.defaultCode := by
  intro table inserted
  have holds : table.Holds inserted := (holds_ofLanguages language others).insertAll added
  have kept : table.defaultCode = language.code :=
    (defaultCode_insertAll _ added).trans (defaultCode_insertAll (singleton language) others)
  refine ⟨holds.last, fun entry => holds.sorted.find?_code, ?_, fun code => holds.mem_codes_iff, kept,
    table.get?_defaultCode, code_eq table.get?_defaultCode⟩
  exact List.pairwise_map.mpr holds.sorted

/-- The default language itself may be replaced. -/
example (story : List Text) :
    (builtin.insert { Language.english with features := story }).defaultLanguage.features = story :=
  rfl

end LanguageTable

end Gherkin
