import Gherkin.Document.Projection
import Gherkin.Proofs.Json.Literals
import Gherkin.Proofs.Text.Trimming
import Mathlib.Data.List.Chain

namespace Gherkin
namespace Json

/-!
# Two layouts of one value

Both layouts write the same tokens, and they differ in the whitespace around them only.  What a
text of tokens is read as does not depend on this whitespace, as long as the grammar accepts the
tokens: then no two words stand next to each other, so every word ends where its token ends.
Taking out the whitespace leaves the tokens side by side, which is the compact layout.
-/

/-! ## The tokens of a value -/

namespace Token

/-- How a token is written. -/
def text : Token → Text
  | openArray => ['[']
  | closeArray => [']']
  | openObject => ['\x7b']
  | closeObject => ['\x7d']
  | comma => [',']
  | colon => [':']
  | null => "null".toList
  | bool true => "true".toList
  | bool false => "false".toList
  | number value => decimal value
  | string value => quote value

/-- The tokens whose end is not seen from their own characters. -/
def isWord : Token → Bool
  | null => true
  | bool _ => true
  | number _ => true
  | _ => false

/-- Two tokens that may stand side by side without whitespace. -/
def Apart (first second : Token) : Prop :=
  first.isWord = true → second.isWord = false

end Token

mutual

/-- The tokens that a value is written with. -/
def tokens : Json → List Token
  | null => [.null]
  | bool value => [.bool value]
  | number value => [.number value]
  | string value => [.string value]
  | array items => [.openArray] ++ itemTokens items ++ [.closeArray]
  | object members => [.openObject] ++ memberTokens members ++ [.closeObject]

/-- The tokens of items, with commas between them. -/
def itemTokens : List Json → List Token
  | [] => []
  | [item] => tokens item
  | item :: next :: rest => tokens item ++ [.comma] ++ itemTokens (next :: rest)

/-- The tokens of members, with commas between them. -/
def memberTokens : List (Text × Json) → List Token
  | [] => []
  | [(key, value)] => [.string key, .colon] ++ tokens value
  | (key, value) :: next :: rest =>
    [.string key, .colon] ++ tokens value ++ [.comma] ++ memberTokens (next :: rest)

end

/-! ## The grammar accepts the tokens of a value -/

namespace Progress

theorem run_append (progress : Progress) (tokens later : List Token) :
    progress.run (tokens ++ later) = (progress.run tokens).bind (·.run later) :=
  List.foldlM_append

theorem run_cons (progress : Progress) (token : Token) (rest : List Token) :
    progress.run (token :: rest) = (progress.step token).bind (·.run rest) :=
  List.foldlM_cons

/-- The first item may stand where an item or the end of the array is expected. -/
theorem run_firstItem (frames : List Frame) (item : Json) (rest : List Json) (later : List Token) :
    run ⟨frames, .item⟩ (itemTokens (item :: rest) ++ later) =
      run ⟨.array [] :: frames, .value⟩ (itemTokens (item :: rest) ++ later) := by
  cases item <;> cases rest <;> rfl

/-- The first member may stand where a member or the end of the object is expected. -/
theorem run_firstMember (frames : List Frame) (member : Text × Json) (rest : List (Text × Json))
    (later : List Token) :
    run ⟨frames, .member⟩ (memberTokens (member :: rest) ++ later) =
      run ⟨frames, .key []⟩ (memberTokens (member :: rest) ++ later) := by
  cases rest <;> rfl

/-- A key and its colon open a member, whose value comes next. -/
theorem run_key (frames : List Frame) (members : List (Text × Json)) (key : Text)
    (later : List Token) :
    run ⟨frames, .key members⟩ ([.string key, .colon] ++ later) =
      run ⟨.object members key :: frames, .value⟩ later :=
  rfl

-- The stack stays general in the recursion, since a value within another one is read with more
-- frames open than the value around it.
mutual

/-- The tokens of a value lead behind it and leave alone what is open around it. -/
theorem run_tokens (frames : List Frame) :
    ∀ value : Json, run ⟨frames, .value⟩ (tokens value) = some ⟨frames, .behind value⟩
  | .null => rfl
  | .bool _ => rfl
  | .number _ => rfl
  | .string _ => rfl
  | .array [] => rfl
  | .object [] => rfl
  | .array (item :: rest) => by
      have items := run_itemTokens frames [] item rest
      rw [← run_firstItem] at items
      exact items
  | .object (member :: rest) => by
      have members := run_memberTokens frames [] member rest
      rw [← run_firstMember] at members
      exact members
termination_by value => sizeOf value

/-- The tokens of items and a closing bracket complete an array that has been begun. -/
theorem run_itemTokens (frames : List Frame) (before : List Json) :
    ∀ (item : Json) (rest : List Json),
      run ⟨.array before :: frames, .value⟩ (itemTokens (item :: rest) ++ [Token.closeArray]) =
        some ⟨frames, .behind (array (before ++ item :: rest))⟩
  | item, [] => by
      rw [itemTokens, run_append, run_tokens]
      rfl
  | item, next :: rest => by
      have later := run_itemTokens frames (before ++ [item]) next rest
      rw [List.append_assoc, List.singleton_append] at later
      rw [itemTokens, List.append_assoc, List.append_assoc, run_append, run_tokens]
      exact later
termination_by item rest => sizeOf (item :: rest)

/-- The tokens of members and a closing brace complete an object that has been begun. -/
theorem run_memberTokens (frames : List Frame) (before : List (Text × Json)) :
    ∀ (member : Text × Json) (rest : List (Text × Json)),
      run ⟨frames, .key before⟩ (memberTokens (member :: rest) ++ [Token.closeObject]) =
        some ⟨frames, .behind (object (before ++ member :: rest))⟩
  | (key, value), [] => by
      rw [memberTokens, List.append_assoc, run_key, run_append, run_tokens]
      rfl
  | (key, value), next :: rest => by
      have later := run_memberTokens frames (before ++ [(key, value)]) next rest
      rw [List.append_assoc, List.singleton_append] at later
      rw [memberTokens, List.append_assoc, List.append_assoc, List.append_assoc, run_key, run_append,
        run_tokens]
      exact later
termination_by member rest => sizeOf (member :: rest)

end

theorem proceed_word {token : Token} (word : token.isWord = true) (value : Json) (frames : List Frame) :
    proceed value frames token = none := by
  cases token with
  | null | bool | number => rcases frames with _ | ⟨_ | _, _⟩ <;> rfl
  | _ => cases word

/-- A word is a whole value. -/
theorem behind_of_step {progress following : Progress} {token : Token} (word : token.isWord = true)
    (one : progress.step token = some following) :
    ∃ frames value, following = ⟨frames, .behind value⟩ := by
  rcases progress with ⟨frames, stage⟩
  cases stage with
  | behind value =>
      have refused := proceed_word word value frames
      rw [step, refused] at one
      cases one
  | value | item =>
      cases token with
      | null | bool | number =>
          cases one
          exact ⟨_, _, rfl⟩
      | _ => cases word
  | member | key | colon =>
      cases token with
      | null | bool | number => cases one
      | _ => cases word

/-- Wherever tokens are accepted, no two words are side by side. -/
theorem isChain_apart {progress last : Progress} {tokens : List Token}
    (accepted : progress.run tokens = some last) : tokens.IsChain Token.Apart := by
  induction tokens generalizing progress with
  | nil => exact .nil
  | cons first rest inductionHypothesis =>
      rw [run_cons] at accepted
      rcases Option.bind_eq_some_iff.mp accepted with ⟨following, one, accepted⟩
      refine List.isChain_cons.mpr ⟨fun second head word => ?_, inductionHypothesis accepted⟩
      rcases behind_of_step word one with ⟨frames, value, rfl⟩
      rcases List.head?_eq_some_iff.mp head with ⟨rest, rfl⟩
      cases other : second.isWord with
      | false => rfl
      | true =>
          have refused : step ⟨frames, .behind value⟩ second = none := proceed_word other value frames
          rw [run_cons, refused] at accepted
          cases accepted

end Progress

theorem value?_tokens (value : Json) : value? (tokens value) = some value := by
  rw [value?, Progress.run_tokens]
  rfl

/-! ## Words -/

/-- A letter, a digit or the minus sign. -/
def isWordCharacter (character : Char) : Bool :=
  character.isAlphanum || character = '-'

theorem isSpace_of_isWordCharacter {character : Char} (proper : isWordCharacter character = true) :
    Text.isSpace character = false :=
  Text.isSpace_eq_false (by decide) proper

/-- The characters that end a word. -/
def delimiters : Text :=
  [' ', '\t', '\n', '\r', '"', '[', ']', '\x7b', '\x7d', ',', ':']

theorem isPlain_of_not_mem {character : Char} (other : character ∉ delimiters) :
    Scan.isPlain character = true := by
  simp only [delimiters, List.mem_cons, not_or] at other
  simp [Scan.isPlain, isSpace, mark?, other]

theorem isPlain_of_isWordCharacter {character : Char} (proper : isWordCharacter character = true) :
    Scan.isPlain character = true := by
  have refused : (delimiters.all fun delimiter => !isWordCharacter delimiter) = true := by decide
  refine isPlain_of_not_mem fun listed => ?_
  have other := List.all_eq_true.mp refused character listed
  rw [proper] at other
  cases other

theorem isWordCharacter_of_mem_decimal {value : Int} {character : Char}
    (listed : character ∈ decimal value) : isWordCharacter character = true := by
  have digit {size : Nat} (within : character ∈ Text.ofNat size) :
      isWordCharacter character = true := by
    simp [isWordCharacter, Char.isAlphanum, isDigit_of_mem_ofNat within]
  cases value with
  | ofNat size => exact digit listed
  | negSucc size =>
      rcases List.mem_cons.mp listed with rfl | within
      · rfl
      · exact digit within

theorem decimal_ne_nil (value : Int) : decimal value ≠ [] := by
  cases value with
  | ofNat size => exact ofNat_ne_nil size
  | negSucc size => exact List.cons_ne_nil _ _

namespace Token

/-- What is written for a word is read as this word. -/
structure Wording (token : Token) : Prop where
  ne_nil : token.text ≠ []
  proper : token.text.all isWordCharacter = true
  read : word? token.text = some token

theorem wording {token : Token} (word : token.isWord = true) : token.Wording := by
  cases token with
  | null => exact ⟨by decide, by decide, rfl⟩
  | bool value => cases value <;> exact ⟨by decide, by decide, rfl⟩
  | number value =>
      refine ⟨decimal_ne_nil value, List.all_eq_true.mpr fun _ => isWordCharacter_of_mem_decimal, ?_⟩
      have other (name : Text) (refused : integer? name = none) : decimal value ≠ name := by
        rintro rfl
        rw [integer?_decimal] at refused
        cases refused
      change word? (decimal value) = _
      rw [word?, if_neg (other _ (by decide)), if_neg (other _ (by decide)),
        if_neg (other _ (by decide)), integer?_decimal]
      rfl
  | _ => cases word

end Token

/-! ## Cutting a text into tokens -/

namespace Scan

/-- The text is at its end or goes on with a character that ends a word. -/
def Parted (text : Text) : Prop :=
  ∀ first ∈ text.head?, isPlain first = false

theorem start_plain {character : Char} (plain : isPlain character = true) :
    start character = ([], word [character]) := by
  simp only [isPlain, Bool.and_eq_true, Bool.not_eq_true', decide_eq_true_eq, Option.isNone_iff_eq_none]
    at plain
  simp [start, plain]

theorem tokens?_word_append {part : Text} (plain : ∀ character ∈ part, isPlain character = true)
    (read rest : Text) :
    (Scan.word read).tokens? (part ++ rest) = (Scan.word (read ++ part)).tokens? rest := by
  induction part generalizing read with
  | nil => simp
  | cons first part inductionHypothesis =>
      rw [List.forall_mem_cons] at plain
      have later := inductionHypothesis plain.2 (read ++ [first])
      rw [List.append_assoc, List.singleton_append] at later
      rw [List.cons_append, tokens?_silent (by rw [next, if_pos plain.1]), later]

/-- At the end of a word, its token comes first, and the rest is read as if it stood alone. -/
theorem tokens?_word {rest : Text} (parted : Parted rest) (read : Text) :
    (Scan.word read).tokens? rest =
      (word? read).bind fun token => (between.tokens? rest).map (token :: ·) := by
  cases rest with
  | nil => cases found : word? read <;> simp [tokens?, finish, found]
  | cons first rest =>
      have ends : isPlain first = false := parted first rfl
      cases found : word? read <;> simp [tokens?, next, ends, found, Function.comp_def]

theorem tokens?_wording {token : Token} (wording : token.Wording) {rest : Text} (parted : Parted rest) :
    between.tokens? (token.text ++ rest) = (between.tokens? rest).map (token :: ·) := by
  have plain : ∀ character ∈ token.text, isPlain character = true :=
    fun character listed =>
      isPlain_of_isWordCharacter (List.all_eq_true.mp wording.proper character listed)
  have read := wording.read
  cases written : token.text with
  | nil => exact absurd written wording.ne_nil
  | cons first part =>
      rw [written] at plain read
      rw [List.forall_mem_cons] at plain
      have begun : between.tokens? (first :: (part ++ rest)) =
          (Scan.word [first]).tokens? (part ++ rest) := by
        refine tokens?_silent ?_ _
        rw [next, start_plain plain.1]
      rw [List.cons_append, begun, tokens?_word_append plain.2, List.singleton_append,
        tokens?_word parted, read]
      rfl

theorem tokens?_token {token : Token} {rest : Text} (parted : token.isWord = true → Parted rest) :
    between.tokens? (token.text ++ rest) = (between.tokens? rest).map (token :: ·) := by
  cases word : token.isWord with
  | true => exact tokens?_wording (Token.wording word) (parted word)
  | false =>
      cases token with
      | string value => exact tokens?_quote value rest
      | null | bool | number => cases word
      | _ => simp [Token.text, tokens?, next, start, isSpace, mark?]

end Scan

namespace Side

theorem squeeze_solid {part : Text}
    (solid : ∀ character ∈ part, character ≠ '"' ∧ Text.isSpace character = false) (rest : Text) :
    outside.squeeze (part ++ rest) = part ++ outside.squeeze rest := by
  induction part with
  | nil => rfl
  | cons first part inductionHypothesis =>
      rw [List.forall_mem_cons] at solid
      have later := inductionHypothesis solid.2
      simp [squeeze, next, solid.1, later]

/-- No token loses a character. -/
theorem squeeze_token (token : Token) (rest : Text) :
    outside.squeeze (token.text ++ rest) = token.text ++ outside.squeeze rest := by
  cases word : token.isWord with
  | true =>
      refine squeeze_solid (fun character listed => ?_) rest
      have proper := List.all_eq_true.mp (Token.wording word).proper character listed
      refine ⟨?_, isSpace_of_isWordCharacter proper⟩
      rintro rfl
      exact absurd proper (by decide)
  | false =>
      cases token with
      | string value => exact squeeze_quote value rest
      | null | bool | number => cases word
      | _ => exact squeeze_solid (List.forall_mem_singleton.mpr (by decide)) rest

end Side

/-! ## Whitespace around tokens -/

/-- What may stand between tokens is whitespace elsewhere as well. -/
theorem isSpace_text {character : Char} (space : isSpace character = true) :
    Text.isSpace character = true := by
  simp only [isSpace, Bool.or_eq_true, decide_eq_true_eq] at space
  rcases space with ((rfl | rfl) | rfl) | rfl <;> rfl

/-- A text of tokens, with any whitespace that JSON allows before, between and behind them. -/
inductive Spaced : List Token → Text → Prop
  | nil : Spaced [] []
  | blank {tokens : List Token} {character : Char} {text : Text} (space : isSpace character = true)
      (spaced : Spaced tokens text) : Spaced tokens (character :: text)
  | token {tokens : List Token} {text : Text} (first : Token) (spaced : Spaced tokens text) :
      Spaced (first :: tokens) (first.text ++ text)

namespace Spaced

variable {tokens others : List Token} {text later : Text}

theorem single (token : Token) : Spaced [token] token.text := by
  simpa using Spaced.token token .nil

theorem append (first : Spaced tokens text) (second : Spaced others later) :
    Spaced (tokens ++ others) (text ++ later) := by
  induction first with
  | nil => exact second
  | blank space _ inductionHypothesis => exact .blank space inductionHypothesis
  | token first _ inductionHypothesis =>
      rw [List.append_assoc]
      exact .token first inductionHypothesis

theorem append_gap {gap : Text} (spaced : Spaced tokens text) (blank : Spaced [] gap) :
    Spaced tokens (text ++ gap) :=
  tokens.append_nil ▸ spaced.append blank

theorem blanks {text : Text} (blank : ∀ character ∈ text, isSpace character = true) : Spaced [] text := by
  induction text with
  | nil => exact .nil
  | cons first rest inductionHypothesis =>
      rw [List.forall_mem_cons] at blank
      exact .blank blank.1 (inductionHypothesis blank.2)

theorem flatMap_text : ∀ tokens : List Token, Spaced tokens (tokens.flatMap Token.text)
  | [] => .nil
  | first :: rest => .token first (flatMap_text rest)

/-- Behind a word, whitespace follows or a token that is no word. -/
theorem parted (spaced : Spaced tokens text)
    (follows : ∀ token ∈ tokens.head?, token.isWord = false) : Scan.Parted text := by
  cases spaced with
  | nil => exact fun _ found => by cases found
  | blank space _ =>
      rintro first ⟨⟩
      simp [Scan.isPlain, space]
  | token first _ =>
      have other := follows first rfl
      cases first with
      | null | bool | number => cases other
      | _ =>
          rintro first ⟨⟩
          rfl

/-- Whitespace around the tokens makes no difference to how the text is cut into them. -/
theorem tokens? (spaced : Spaced tokens text) (apart : tokens.IsChain Token.Apart) :
    Scan.between.tokens? text = some tokens := by
  induction spaced with
  | nil => rfl
  | blank space _ inductionHypothesis =>
      have later := inductionHypothesis apart
      rw [Scan.tokens?_silent (by rw [Scan.next, Scan.start, if_pos space]), later]
  | token first spaced inductionHypothesis =>
      rcases List.isChain_cons.mp apart with ⟨follows, apart⟩
      rw [Scan.tokens?_token fun word => spaced.parted fun second head => follows second head word,
        inductionHypothesis apart]
      rfl

/-- Without the whitespace, the tokens are side by side. -/
theorem squeeze (spaced : Spaced tokens text) : Json.squeeze text = tokens.flatMap Token.text := by
  induction spaced with
  | nil => rfl
  | blank space _ inductionHypothesis =>
      rw [Json.squeeze, Side.squeeze, if_pos ⟨rfl, isSpace_text space⟩]
      exact inductionHypothesis
  | token first _ inductionHypothesis =>
      rw [Json.squeeze, Side.squeeze_token]
      exact congrArg (first.text ++ ·) inductionHypothesis

/-- If the tokens stand for a value, then any text of them is read as this value. -/
theorem read {value : Json} (spaced : Spaced tokens text) (accepted : value? tokens = some value) :
    Json.read text = some value := by
  rcases Option.bind_eq_some_iff.mp accepted with ⟨progress, run, -⟩
  rw [Json.read, spaced.tokens? (Progress.isChain_apart run)]
  exact accepted

end Spaced

/-! ## The two layouts -/

mutual

theorem compact_eq : ∀ value : Json, compact value = (tokens value).flatMap Token.text
  | .null | .bool true | .bool false => rfl
  | .number _ => by simp [compact, tokens, scalar, Token.text]
  | .string _ => by simp [compact, tokens, scalar, Token.text]
  | .array items => by simp [compact, tokens, Token.text, compactItems_eq items]
  | .object members => by simp [compact, tokens, Token.text, compactMembers_eq members]

theorem compactItems_eq : ∀ items : List Json,
    compactItems items = (itemTokens items).flatMap Token.text
  | [] => rfl
  | [item] => by rw [compactItems, itemTokens, compact_eq item]
  | item :: next :: rest => by
      simp [compactItems, itemTokens, Token.text, compact_eq item, compactItems_eq (next :: rest)]

theorem compactMembers_eq : ∀ members : List (Text × Json),
    compactMembers members = (memberTokens members).flatMap Token.text
  | [] => rfl
  | [(key, value)] => by simp [compactMembers, memberTokens, Token.text, compact_eq value]
  | (key, value) :: next :: rest => by
      simp [compactMembers, memberTokens, Token.text, compact_eq value,
        compactMembers_eq (next :: rest)]

end

theorem spaced_lineBreak (level : Nat) : Spaced [] (lineBreak level) := by
  refine .blanks fun character listed => ?_
  rcases List.mem_cons.mp listed with rfl | within
  · rfl
  · rw [List.eq_of_mem_replicate within]
    rfl

theorem spaced_key (level : Nat) (key : Text) :
    Spaced [.string key, .colon] (lineBreak level ++ quote key ++ [':', ' ']) :=
  ((spaced_lineBreak level).append (.single (.string key))).append (.token .colon (.blank rfl .nil))

mutual

theorem spaced_prettyAt (level : Nat) : ∀ value : Json, Spaced (tokens value) (prettyAt level value)
  | .null => .single .null
  | .bool true => .single (.bool true)
  | .bool false => .single (.bool false)
  | .number value => .single (.number value)
  | .string value => .single (.string value)
  | .array [] => .flatMap_text [.openArray, .closeArray]
  | .object [] => .flatMap_text [.openObject, .closeObject]
  | .array (item :: rest) =>
      (((Spaced.single .openArray).append (spaced_prettyItems (level + 1) (item :: rest))).append_gap
        (spaced_lineBreak level)).append (.single .closeArray)
  | .object (member :: rest) =>
      (((Spaced.single .openObject).append (spaced_prettyMembers (level + 1) (member :: rest))).append_gap
        (spaced_lineBreak level)).append (.single .closeObject)

theorem spaced_prettyItems (level : Nat) : ∀ items : List Json,
    Spaced (itemTokens items) (prettyItems level items)
  | [] => .nil
  | [item] => (spaced_lineBreak level).append (spaced_prettyAt level item)
  | item :: next :: rest =>
      (((spaced_lineBreak level).append (spaced_prettyAt level item)).append (.single .comma)).append
        (spaced_prettyItems level (next :: rest))

theorem spaced_prettyMembers (level : Nat) : ∀ members : List (Text × Json),
    Spaced (memberTokens members) (prettyMembers level members)
  | [] => .nil
  | [(key, value)] => (spaced_key level key).append (spaced_prettyAt level value)
  | (key, value) :: next :: rest =>
      (((spaced_key level key).append (spaced_prettyAt level value)).append (.single .comma)).append
        (spaced_prettyMembers level (next :: rest))

end

/-! ## Both layouts are read back -/

theorem read_compact (value : Json) : read value.compact = some value := by
  rw [compact_eq]
  exact (Spaced.flatMap_text _).read (value?_tokens value)

theorem read_pretty (value : Json) : read value.pretty = some value :=
  (spaced_prettyAt 0 value).read (value?_tokens value)

theorem squeeze_pretty (value : Json) : squeeze value.pretty = value.compact := by
  rw [compact_eq]
  exact (spaced_prettyAt 0 value).squeeze

end Json

namespace Document

/-- Both JSON texts of a document stand for its projection, and they differ in the whitespace
outside of string literals only. -/
theorem json_texts_agree (document : Document) :
    Json.read document.compactJson = some document.project ∧
      Json.read document.prettyJson = some document.project ∧
      Json.squeeze document.prettyJson = document.compactJson :=
  ⟨Json.read_compact document.project, Json.read_pretty document.project,
    Json.squeeze_pretty document.project⟩

end Document
end Gherkin
