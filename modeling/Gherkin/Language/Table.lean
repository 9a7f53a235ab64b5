import Gherkin.Language.Builtin

namespace Gherkin

/-!
# Language tables

A language table holds languages by their codes and names one of them as the
default.  Adding a language takes the place of the one that had its code.
Languages are kept in the order of their codes, so that the codes can be read
off in order.  The default language is always found, because that is a field
of the table: no operation removes a code.
-/

namespace Language

/-- The language with the given code. -/
def find? (code : Text) (languages : List Language) : Option Language :=
  languages.find? fun language => decide (language.code = code)

/-- Add a language in the order of codes, in place of one with the same code. -/
def insert (added : Language) : List Language → List Language
  | [] => [added]
  | language :: rest =>
    if language.code = added.code then added :: rest
    else if added.code.before language.code then added :: language :: rest
    else language :: insert added rest

/-- What is found after an addition: the added language under its own code, and what
was found before under every other. -/
theorem find?_insert (added : Language) (code : Text) (languages : List Language) :
    find? code (insert added languages) =
      if added.code = code then some added else find? code languages := by
  unfold find?
  induction languages with
  | nil => by_cases same : added.code = code <;> simp [insert, same]
  | cons language rest inductionHypothesis =>
    rw [insert]
    by_cases replaced : language.code = added.code
    · by_cases same : added.code = code <;> simp [replaced, same]
    · rw [if_neg replaced]
      by_cases earlier : added.code.before language.code
      · rw [if_pos earlier, List.find?_cons]
        by_cases same : added.code = code <;> simp [same]
      · rw [if_neg earlier, List.find?_cons, List.find?_cons, inductionHypothesis]
        by_cases found : language.code = code
        · have different : added.code ≠ code := fun same => replaced (found.trans same.symm)
          simp [found, different]
        · simp [found]

end Language

/-- Languages by code, one of which is the default. -/
structure LanguageTable where
  entries : List Language
  defaultCode : Text
  default_found : (Language.find? defaultCode entries).isSome

namespace LanguageTable

/-- The table with nothing but its default language. -/
def singleton (language : Language) : LanguageTable where
  entries := [language]
  defaultCode := language.code
  default_found := by simp [Language.find?]

/-- Add a language, in place of the one that had its code. -/
def insert (table : LanguageTable) (language : Language) : LanguageTable where
  entries := Language.insert language table.entries
  defaultCode := table.defaultCode
  default_found := by
    rw [Language.find?_insert]
    split
    · rfl
    · exact table.default_found

/-- A table around a default language.  Of several languages with one code the
last one stays. -/
def ofLanguages (language : Language) (others : List Language) : LanguageTable :=
  others.foldl insert (singleton language)

/-- The languages that come with the library, with English as the default. -/
def builtin : LanguageTable :=
  ofLanguages .english [.french, .german, .spanish, .japanese]

/-- The language with the given code. -/
def get? (table : LanguageTable) (code : Text) : Option Language :=
  Language.find? code table.entries

/-- Whether the table has a language with the given code. -/
def contains (table : LanguageTable) (code : Text) : Bool :=
  (table.get? code).isSome

/-- The language of a document that names none. -/
def defaultLanguage (table : LanguageTable) : Language :=
  (table.get? table.defaultCode).get table.default_found

/-- The codes of the table, in order. -/
def codes (table : LanguageTable) : List Text :=
  table.entries.map Language.code

end LanguageTable

end Gherkin
