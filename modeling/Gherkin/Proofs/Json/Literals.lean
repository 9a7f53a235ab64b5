import Gherkin.Json.Printer
import Gherkin.Proofs.Json.Reader
import Mathlib.Data.List.Basic

namespace Gherkin
namespace Json

/-!
# Numbers and strings are read back

What is written for an integer or for a text stands for just this integer or this text.  The
escapes of a literal hide every quote within it, so the quote behind them is the one that closes
the literal, both for the reader and for whoever takes out the whitespace outside of literals.
-/

/-! ## Decimal digits -/

theorem ofNat_ne_nil (size : Nat) : Text.ofNat size ≠ [] :=
  Nat.toDigits_ne_nil

/-- Only zero itself is written with a zero in front. -/
theorem head?_ofNat (size : Nat) : (Text.ofNat size).head? = some '0' ↔ size = 0 := by
  induction size using Nat.strongRecOn with
  | ind size inductionHypothesis =>
      by_cases small : size < 10
      · simp [Text.ofNat, Nat.toDigits_of_lt_base small]
      · have split : Text.ofNat size = Text.ofNat (size / 10) ++ [(size % 10).digitChar] :=
          Nat.toDigits_of_base_le (by omega) (by omega)
        have shorter := inductionHypothesis (size / 10) (by omega)
        rw [split, List.head?_append_of_ne_nil _ (ofNat_ne_nil _), shorter]
        omega

theorem isDigit_of_mem_ofNat {size : Nat} {character : Char} (listed : character ∈ Text.ofNat size) :
    character.isDigit = true :=
  Nat.isDigit_of_mem_toDigits (by decide) (by decide) listed

theorem natural?_ofNat (size : Nat) : natural? (Text.ofNat size) = some size := by
  have digits : (Text.ofNat size).all Char.isDigit = true :=
    List.all_eq_true.mpr fun _ => isDigit_of_mem_ofNat
  have leading : (Text.ofNat size).head? = some '0' → Text.ofNat size = ['0'] := by
    intro starts
    rw [(head?_ofNat size).mp starts]
    rfl
  rw [natural?, if_pos ⟨ofNat_ne_nil size, digits, leading⟩]
  exact congrArg some Nat.ofDigitChars_ten_toDigits

theorem integer?_decimal (value : Int) : integer? (decimal value) = some value := by
  cases value with
  | ofNat size =>
      cases written : Text.ofNat size with
      | nil => exact absurd written (ofNat_ne_nil size)
      | cons first rest =>
          have digit : first.isDigit = true := isDigit_of_mem_ofNat (written ▸ List.mem_cons_self)
          have unsigned : first ≠ '-' := by
            rintro rfl
            exact absurd digit (by decide)
          rw [decimal, written, integer?, if_neg unsigned, ← written, natural?_ofNat]
          rfl
  | negSucc size =>
      rw [decimal, List.singleton_append, integer?, if_pos rfl, natural?_ofNat]
      rfl

/-! ## Escapes -/

/-- A character is written as itself, by a letter or by its number. -/
theorem escape_cases (character : Char) :
    (escape character = [character] ∧ character ≠ '"' ∧ character ≠ '\\' ∧
        ¬ character.toNat < 0x20) ∨
      (∃ letter, escape character = ['\\', letter] ∧ letter ≠ 'u' ∧
        unescaped? letter = some character) ∨
      (escape character = ['\\', 'u', '0', '0', hexDigit (character.toNat / 16),
        hexDigit (character.toNat % 16)] ∧ character.toNat < 0x20) := by
  unfold escape
  split_ifs with quoted backslash backspace tab newline formFeed carriageReturn control
  · exact .inr (.inl ⟨'"', rfl, by decide, congrArg some quoted.symm⟩)
  · exact .inr (.inl ⟨'\\', rfl, by decide, congrArg some backslash.symm⟩)
  · exact .inr (.inl ⟨'b', rfl, by decide, congrArg some backspace.symm⟩)
  · exact .inr (.inl ⟨'t', rfl, by decide, congrArg some tab.symm⟩)
  · exact .inr (.inl ⟨'n', rfl, by decide, congrArg some newline.symm⟩)
  · exact .inr (.inl ⟨'f', rfl, by decide, congrArg some formFeed.symm⟩)
  · exact .inr (.inl ⟨'r', rfl, by decide, congrArg some carriageReturn.symm⟩)
  · exact .inr (.inr ⟨rfl, control⟩)
  · exact .inl ⟨rfl, quoted, backslash, control⟩

theorem hexNumber?_control {value : Nat} (control : value < 0x20) :
    hexNumber? ['0', '0', hexDigit (value / 16), hexDigit (value % 16)] = some value := by
  have every : ∀ value < 0x20,
      hexNumber? ['0', '0', hexDigit (value / 16), hexDigit (value % 16)] = some value := by decide
  exact every value control

theorem joined?_unit {value : Nat} (small : value < 0xD800) (rest : List Piece) :
    joined? (.unit value :: rest) = (joined? rest).map (Char.ofNat value :: ·) := by
  have low : isHighSurrogate value = false := by
    simp only [isHighSurrogate, Bool.and_eq_false_iff, decide_eq_false_iff_not]
    omega
  have lower : isLowSurrogate value = false := by
    simp only [isLowSurrogate, Bool.and_eq_false_iff, decide_eq_false_iff_not]
    omega
  rcases rest with _ | ⟨_ | _, _⟩ <;> simp [joined?, low, lower]

/-- What is written for a character is one piece, and the piece stands for this character. -/
theorem exists_piece (character : Char) :
    ∃ piece : Piece,
      (∀ rest, pieces? (escape character ++ rest) = (pieces? rest).map (piece :: ·)) ∧
      ∀ rest, joined? (piece :: rest) = (joined? rest).map (character :: ·) := by
  rcases escape_cases character with
    ⟨written, quoted, backslash, control⟩ | ⟨letter, written, other, known⟩ | ⟨written, control⟩
  · refine ⟨.character character, fun rest => ?_, fun rest => by rw [joined?]⟩
    rw [written, List.singleton_append, pieces?]
    · simp [quoted, backslash, control]
    all_goals simp [backslash]
  · refine ⟨.character character, fun rest => ?_, fun rest => by rw [joined?]⟩
    rw [written, List.cons_append, List.singleton_append, pieces?]
    · simp [known]
      cases pieces? rest <;> rfl
    · rintro _ _ _ _ _ rfl
      exact absurd rfl other
  · refine ⟨.unit character.toNat, fun rest => ?_, fun rest => ?_⟩
    · rw [written]
      simp only [List.cons_append, List.nil_append, pieces?, hexNumber?_control control]
      cases pieces? rest <;> rfl
    · rw [joined?_unit (by omega), Char.ofNat_toNat]

theorem unquoted?_escaped (text : Text) : unquoted? (text.flatMap escape) = some text := by
  suffices found : ∃ pieces, pieces? (text.flatMap escape) = some pieces ∧ joined? pieces = some text by
    rcases found with ⟨pieces, split, joined⟩
    rw [unquoted?, split]
    exact joined
  induction text with
  | nil => exact ⟨[], rfl, rfl⟩
  | cons first rest inductionHypothesis =>
      rcases inductionHypothesis with ⟨pieces, split, joined⟩
      rcases exists_piece first with ⟨piece, reads, stands⟩
      refine ⟨piece :: pieces, ?_, ?_⟩
      · rw [List.flatMap_cons, reads, split]
        rfl
      · rw [stands, joined]
        rfl

/-! ## The end of a literal -/

theorem hexDigit_ne (value : Nat) : hexDigit value ≠ '"' ∧ hexDigit value ≠ '\\' :=
  ⟨Nat.digitChar_ne _ (by decide), Nat.digitChar_ne _ (by decide)⟩

namespace Scan

/-- A character that ends no token only changes what is being read. -/
theorem tokens?_silent {scan following : Scan} {character : Char}
    (silent : scan.next character = some ([], following)) (rest : Text) :
    scan.tokens? (character :: rest) = following.tokens? rest := by
  rw [tokens?, silent]
  cases later : following.tokens? rest <;> simp [later]

theorem tokens?_quoted_cons {character : Char} (quoted : character ≠ '"') (backslash : character ≠ '\\')
    (read rest : Text) :
    (Scan.quoted read).tokens? (character :: rest) =
      (Scan.quoted (read ++ [character])).tokens? rest :=
  tokens?_silent (by simp [next, quoted, backslash]) rest

theorem tokens?_quoted_backslash (letter : Char) (read rest : Text) :
    (Scan.quoted read).tokens? ('\\' :: letter :: rest) =
      (Scan.quoted (read ++ ['\\', letter])).tokens? rest := by
  have escaping : (Scan.quoted read).next '\\' = some ([], escaped read) := rfl
  exact (tokens?_silent escaping _).trans (tokens?_silent rfl rest)

/-- Within a literal, what is written for a character is read as a whole. -/
theorem tokens?_escape (character : Char) (read rest : Text) :
    (Scan.quoted read).tokens? (escape character ++ rest) =
      (Scan.quoted (read ++ escape character)).tokens? rest := by
  rcases escape_cases character with
    ⟨written, quoted, backslash, -⟩ | ⟨letter, written, -⟩ | ⟨written, -⟩
  · rw [written]
    exact tokens?_quoted_cons quoted backslash read rest
  · rw [written]
    exact tokens?_quoted_backslash letter read rest
  · have high := hexDigit_ne (character.toNat / 16)
    have low := hexDigit_ne (character.toNat % 16)
    rw [written]
    simp [tokens?_quoted_backslash, tokens?_quoted_cons, high, low]

/-- A literal is read as the text that it was written for. -/
theorem tokens?_quote (text rest : Text) :
    between.tokens? (quote text ++ rest) = (between.tokens? rest).map (.string text :: ·) := by
  have within : ∀ (left read : Text),
      (Scan.quoted read).tokens? (left.flatMap escape ++ '"' :: rest) =
        (Scan.quoted (read ++ left.flatMap escape)).tokens? ('"' :: rest) := by
    intro left
    induction left with
    | nil => simp
    | cons first left inductionHypothesis =>
        intro read
        rw [List.flatMap_cons, List.append_assoc, tokens?_escape, inductionHypothesis, List.append_assoc]
  have opened : between.tokens? (quote text ++ rest) =
      (Scan.quoted []).tokens? (text.flatMap escape ++ '"' :: rest) := by
    rw [quote, List.append_assoc, List.append_assoc]
    exact tokens?_silent rfl _
  rw [opened, within]
  simp [tokens?, next, unquoted?_escaped]

end Scan

namespace Side

theorem squeeze_inside_cons {character : Char} (quoted : character ≠ '"') (backslash : character ≠ '\\')
    (rest : Text) : inside.squeeze (character :: rest) = character :: inside.squeeze rest := by
  simp [squeeze, next, quoted, backslash]

theorem squeeze_inside_backslash (letter : Char) (rest : Text) :
    inside.squeeze ('\\' :: letter :: rest) = '\\' :: letter :: inside.squeeze rest := by
  simp [squeeze, next]

/-- Within a literal, what is written for a character stays. -/
theorem squeeze_escape (character : Char) (rest : Text) :
    inside.squeeze (escape character ++ rest) = escape character ++ inside.squeeze rest := by
  rcases escape_cases character with
    ⟨written, quoted, backslash, -⟩ | ⟨letter, written, -⟩ | ⟨written, -⟩
  · rw [written]
    exact squeeze_inside_cons quoted backslash rest
  · rw [written]
    exact squeeze_inside_backslash letter rest
  · have high := hexDigit_ne (character.toNat / 16)
    have low := hexDigit_ne (character.toNat % 16)
    rw [written]
    simp [squeeze_inside_backslash, squeeze_inside_cons, high, low]

/-- A literal stays as it is. -/
theorem squeeze_quote (text rest : Text) :
    outside.squeeze (quote text ++ rest) = quote text ++ outside.squeeze rest := by
  have within : inside.squeeze (text.flatMap escape ++ '"' :: rest) =
      text.flatMap escape ++ inside.squeeze ('"' :: rest) := by
    induction text with
    | nil => rfl
    | cons first text inductionHypothesis =>
        rw [List.flatMap_cons, List.append_assoc, squeeze_escape, inductionHypothesis, List.append_assoc]
  have opened : outside.squeeze (quote text ++ rest) =
      '"' :: inside.squeeze (text.flatMap escape ++ '"' :: rest) := by
    have solid : Text.isSpace '"' = false := by decide
    simp [quote, squeeze, next, solid]
  rw [opened, within]
  simp [quote, squeeze, next]

end Side

end Json
end Gherkin
