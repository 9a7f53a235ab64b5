import Gherkin.Proofs.Text.Lines

namespace Gherkin

open Text (SingleLine isSpace)

/-!
# Directives and the languages of a table

A directive is a number sign, the word `language`, a colon and a code, with any
whitespace in front of each of them and behind the code.  Reading accepts exactly such
lines, and it cannot read a part of the code only: a code of letters, digits, hyphens
and underscores has no whitespace in it, and nothing but whitespace may follow it.  So
the directive that is written for a code names it again, and nothing that begins with
another character than the number sign is taken for one.

A table lists its languages under their own codes, the default language included.
-/

/-! ## Directives -/

namespace Language

/-- A code that a directive can name. -/
def IsCode (code : Text) : Prop :=
  code ≠ [] ∧ ∀ character ∈ code, isCodeCharacter character = true

instance isCodeDecidable (code : Text) : Decidable (IsCode code) :=
  @instDecidableAnd _ _ inferInstance (List.decidableBAll _ code)

/-- No whitespace may stand in a code. -/
theorem isSpace_of_isCodeCharacter {character : Char} (proper : isCodeCharacter character = true) :
    isSpace character = false :=
  Text.isSpace_eq_false (by decide) proper

theorem IsCode.trimmed {code : Text} (isCode : IsCode code) : Text.Trimmed code := by
  constructor
  · exact fun first found => isSpace_of_isCodeCharacter (isCode.2 first (List.mem_of_head? found))
  · exact fun last found => isSpace_of_isCodeCharacter (isCode.2 last (List.mem_of_getLast? found))

theorem IsCode.singleLine {code : Text} (isCode : IsCode code) : SingleLine code :=
  fun listed => absurd (isCode.2 _ listed) (by decide)

theorem isCode_iff {code : Text} :
    IsCode code ↔ (!code.isEmpty && code.all isCodeCharacter) = true := by
  simp [IsCode]

/-- A directive as it may be written: a number sign, the word, a colon and a code, with any
whitespace in front of each of them and behind the code. -/
structure Directive where
  beforeMark : Text
  beforeWord : Text
  beforeColon : Text
  beforeCode : Text
  code : Text
  behind : Text
  blank : ∀ gap ∈ [beforeMark, beforeWord, beforeColon, beforeCode, behind], gap.isBlank = true
  isCode : IsCode code

namespace Directive

/-- The line on which the directive stands. -/
def text (directive : Directive) : Text :=
  directive.beforeMark ++ ['#'] ++ directive.beforeWord ++ "language".toList ++
    directive.beforeColon ++ [':'] ++ directive.beforeCode ++ directive.code ++ directive.behind

/-- However it is written, it names its code. -/
theorem directive?_text (directive : Directive) :
    Language.directive? directive.text = some directive.code := by
  have white := directive.blank
  simp only [List.forall_mem_cons, List.not_mem_nil, false_imp_iff, implies_true, and_true] at white
  rcases white with ⟨beforeMark, beforeWord, beforeColon, beforeCode, behind⟩
  have named := Text.trim_eq_of_split beforeCode behind directive.isCode.trimmed
  rw [List.append_assoc] at named
  simp only [Language.directive?, text, List.append_assoc, Option.bind_eq_bind]
  rw [Text.isPrefixOf?_trimStart beforeMark (by decide) (by decide), Option.bind_some,
    Text.isPrefixOf?_trimStart beforeWord (by decide) (by decide), Option.bind_some,
    Text.isPrefixOf?_trimStart beforeColon (by decide) (by decide), Option.bind_some,
    named, if_pos (isCode_iff.mp directive.isCode)]

/-- Whatever names a code is a directive for it. -/
theorem exists_of_directive? {text code : Text} (named : Language.directive? text = some code) :
    ∃ directive : Directive, directive.text = text ∧ directive.code = code := by
  simp only [Language.directive?, Option.bind_eq_bind, Option.bind_eq_some_iff,
    Option.ite_none_right_eq_some, Option.some.injEq] at named
  rcases named with ⟨_, mark, _, word, afterColon, colon, proper, rfl⟩
  rcases Text.exists_of_isPrefixOf?_trimStart mark with ⟨beforeMark, whiteMark, rfl⟩
  rcases Text.exists_of_isPrefixOf?_trimStart word with ⟨beforeWord, whiteWord, rfl⟩
  rcases Text.exists_of_isPrefixOf?_trimStart colon with ⟨beforeColon, whiteColon, rfl⟩
  rcases Text.exists_trim afterColon with ⟨beforeCode, behind, whiteCode, whiteBehind, same⟩
  refine ⟨⟨beforeMark, beforeWord, beforeColon, beforeCode, Text.trim afterColon, behind, ?_,
    isCode_iff.mpr proper⟩, ?_, rfl⟩
  · simp [whiteMark, whiteWord, whiteColon, whiteCode, whiteBehind]
  · conv_rhs => rw [same]
    simp only [text, List.append_assoc]

end Directive

/-- A line names a code exactly if it is a directive for this code, and it is a directive for one
code at most, however its whitespace is shared out. -/
theorem directive?_eq_some_iff (text code : Text) :
    (directive? text = some code ↔ ∃ written : Directive, written.text = text ∧ written.code = code) ∧
    ∀ first second : Directive, first.text = text → second.text = text → first.code = second.code := by
  constructor
  · constructor
    · exact Directive.exists_of_directive?
    · rintro ⟨written, rfl, rfl⟩
      exact written.directive?_text
  · intro first second same other
    have named := first.directive?_text
    rw [same, ← other, second.directive?_text] at named
    exact (Option.some.inj named).symm

/-- The written directive names the code it was written for. -/
theorem IsCode.directive? {code : Text} (isCode : IsCode code) :
    Language.directive? ("# language: ".toList ++ code) = some code := by
  have named := Directive.directive?_text ⟨[], [' '], [], [' '], code, [], by decide, isCode⟩
  have spelled : Directive.text ⟨[], [' '], [], [' '], code, [], by decide, isCode⟩ =
      "# language: ".toList ++ code := List.append_nil _
  rwa [spelled] at named

/-- A language directive starts with a number sign. -/
theorem head?_of_directive? {text code : Text} (named : directive? text = some code) :
    text.trim.head? = some '#' := by
  rcases Directive.exists_of_directive? named with ⟨directive, rfl, -⟩
  have white : directive.beforeMark.isBlank = true := directive.blank _ List.mem_cons_self
  simp only [Directive.text, List.append_assoc, List.singleton_append]
  exact Text.head?_trim white (by decide)

theorem directive?_cons {first : Char} {rest : Text} (solid : isSpace first = false)
    (other : first ≠ '#') : directive? (first :: rest) = none := by
  rw [Option.eq_none_iff_forall_ne_some]
  intro code named
  have kept : (Text.trim (first :: rest)).head? = some first := Text.head?_trim Text.isBlank_nil solid
  exact other (Option.some.inj (kept.symm.trans (head?_of_directive? named)))

end Language

/-! ## Tables -/

namespace LanguageTable

variable {languages : LanguageTable} {code : Text} {language : Language}

theorem code_eq (known : languages.get? code = some language) : language.code = code :=
  of_decide_eq_true (List.find?_some (p := fun other : Language => decide (other.code = code)) known)

/-- A language is listed under its own code. -/
theorem get?_code (known : languages.get? code = some language) :
    languages.get? language.code = some language := by
  rwa [code_eq known]

theorem get?_defaultCode (languages : LanguageTable) :
    languages.get? languages.defaultCode = some languages.defaultLanguage :=
  (Option.some_get languages.default_found).symm

/-- The language of the table that a line names. -/
def namedBy (languages : LanguageTable) (line : Text) : Option Language :=
  (Language.directive? line).bind languages.get?

/-- The written directive names its language. -/
theorem namedBy_directive (isCode : Language.IsCode code) :
    languages.namedBy (firstLine ("# language: ".toList ++ code)) = languages.get? code := by
  have single : SingleLine (" language: ".toList ++ code) :=
    Text.singleLine_append.mpr ⟨by decide, isCode.singleLine⟩
  have whole : firstLine ("# language: ".toList ++ code) = "# language: ".toList ++ code :=
    (firstLine_cons (by decide) (by decide) _).trans
      (congrArg (List.cons '#') (Text.takeWhile_of_not_mem single))
  rw [whole, namedBy, isCode.directive?, Option.bind_some]

/-- Whatever begins with an ordinary character names no language. -/
theorem namedBy_firstLine_cons {first : Char} (solid : isSpace first = false) (other : first ≠ '#')
    (unmarked : first ≠ byteOrderMark) (rest : Text) :
    languages.namedBy (firstLine (first :: rest)) = none := by
  have single : first ≠ '\n' := by
    rintro rfl
    exact absurd solid (by decide)
  rw [firstLine_cons unmarked single, namedBy, Language.directive?_cons solid other]
  rfl

end LanguageTable

end Gherkin
