import Gherkin.Text.Blank
import Mathlib.Data.List.DropRight
import Mathlib.Data.List.TakeWhile

namespace Gherkin
namespace Text

/-!
# Trimming

Trimming is described by what it leaves: a text is its trimmed form between two
blank texts, and conversely a form without whitespace at its ends between two
blank texts is what trimming gives.  The two ends are kept apart, because
descriptions lose whitespace at their right end only.
-/

/-- The first character, if there is one, is not whitespace. -/
def StartsSolid (text : Text) : Prop :=
  ∀ first ∈ text.head?, isSpace first = false

instance startsSolidDecidable (text : Text) : Decidable (StartsSolid text) :=
  Option.decidableForallMem text.head?

/-- The last character, if there is one, is not whitespace. -/
def EndsSolid (text : Text) : Prop :=
  ∀ last ∈ text.getLast?, isSpace last = false

/-- A class of characters has no whitespace in it if it has none of the listed numbers. -/
theorem isSpace_eq_false {proper : Char → Bool}
    (refused : ∀ range ∈ spaceRanges, ∀ number ∈ List.range' range.1 (range.2 + 1 - range.1),
      proper (Char.ofNat number) = false)
    {character : Char} (holds : proper character = true) : isSpace character = false := by
  refine List.any_eq_false.mpr fun range listed inside => ?_
  rw [Bool.and_eq_true, decide_eq_true_eq, decide_eq_true_eq] at inside
  have among : character.toNat ∈ List.range' range.1 (range.2 + 1 - range.1) := by
    rw [List.mem_range'_1]
    omega
  have space := refused range listed _ among
  rw [Char.ofNat_toNat, holds] at space
  cases space

theorem isBlank_iff {text : Text} : text.isBlank = true ↔ ∀ character ∈ text, isSpace character = true :=
  List.all_eq_true

@[simp] theorem isBlank_nil : isBlank [] = true :=
  rfl

@[simp] theorem isBlank_append (first second : Text) :
    isBlank (first ++ second) = (isBlank first && isBlank second) :=
  List.all_append

theorem isBlank_margin (count : Nat) : isBlank (List.replicate count ' ') = true :=
  isBlank_iff.mpr fun _ listed => (List.eq_of_mem_replicate listed).symm ▸ (by decide)

@[simp] theorem startsSolid_nil : StartsSolid [] := by
  simp [StartsSolid]

@[simp] theorem endsSolid_nil : EndsSolid [] := by
  simp [EndsSolid]

@[simp] theorem startsSolid_cons {first : Char} {rest : Text} :
    StartsSolid (first :: rest) ↔ isSpace first = false := by
  simp [StartsSolid]

theorem startsSolid_append {first second : Text} (solid : StartsSolid first)
    (present : first ≠ []) : StartsSolid (first ++ second) := by
  cases first with
  | nil => exact absurd rfl present
  | cons character rest => exact startsSolid_cons.mpr (startsSolid_cons.mp solid)

theorem endsSolid_append {first second : Text} (solid : EndsSolid second)
    (present : second ≠ []) : EndsSolid (first ++ second) := by
  intro last found
  rw [List.getLast?_append_of_ne_nil _ present] at found
  exact solid last found

theorem endsSolid_of_append {first second : Text} (solid : EndsSolid (first ++ second)) :
    EndsSolid second := by
  intro last found
  apply solid last
  rw [List.getLast?_append, found]
  rfl

/-! ## Trimming one end -/

theorem trimEnd_eq_rdropWhile (text : Text) : trimEnd text = text.rdropWhile isSpace :=
  rfl

theorem trimStart_eq_self_iff {text : Text} : trimStart text = text ↔ StartsSolid text := by
  cases text with
  | nil => simp [trimStart]
  | cons first rest =>
      rw [trimStart, List.dropWhile_cons, startsSolid_cons]
      cases solid : isSpace first with
      | true =>
          simp only [if_true, Bool.true_eq_false, iff_false]
          intro same
          have shorter : (List.dropWhile isSpace rest).length ≤ rest.length :=
            (List.dropWhile_suffix isSpace).length_le
          rw [same, List.length_cons] at shorter
          omega
      | false => simp

theorem trimEnd_eq_self_iff {text : Text} : trimEnd text = text ↔ EndsSolid text := by
  rw [trimEnd_eq_rdropWhile, List.rdropWhile_eq_self_iff]
  constructor
  · intro kept last found
    have present : text ≠ [] := by
      rintro rfl
      cases found
    rw [List.getLast?_eq_getLast_of_ne_nil present] at found
    cases found
    exact Bool.eq_false_iff.mpr (kept present)
  · intro solid present
    exact Bool.eq_false_iff.mp (solid _ (List.getLast?_eq_getLast_of_ne_nil present))

theorem startsSolid_trimStart (text : Text) : StartsSolid (trimStart text) :=
  trimStart_eq_self_iff.mp (List.dropWhile_idempotent isSpace text)

theorem endsSolid_trimEnd (text : Text) : EndsSolid (trimEnd text) :=
  trimEnd_eq_self_iff.mp (List.rdropWhile_idempotent isSpace text)

theorem trimStart_eq_nil_iff {text : Text} : trimStart text = [] ↔ text.isBlank = true := by
  rw [trimStart, List.dropWhile_eq_nil_iff, isBlank_iff]

theorem trimEnd_eq_nil_iff {text : Text} : trimEnd text = [] ↔ text.isBlank = true := by
  rw [trimEnd_eq_rdropWhile, List.rdropWhile_eq_nil_iff, isBlank_iff]

theorem trimStart_append_of_isBlank {blank : Text} (white : blank.isBlank = true) (text : Text) :
    trimStart (blank ++ text) = trimStart text :=
  List.dropWhile_append_of_pos (isBlank_iff.mp white)

theorem trimEnd_append_of_isBlank {blank : Text} (white : blank.isBlank = true) (text : Text) :
    trimEnd (text ++ blank) = trimEnd text := by
  unfold trimEnd
  rw [List.reverse_append, List.dropWhile_append_of_pos]
  simpa only [List.mem_reverse] using isBlank_iff.mp white

theorem exists_trimStart (text : Text) :
    ∃ before, before.isBlank = true ∧ text = before ++ trimStart text := by
  refine ⟨text.takeWhile isSpace, isBlank_iff.mpr ?_, List.takeWhile_append_dropWhile.symm⟩
  exact fun character listed => List.mem_takeWhile_imp listed

/-- What starts solid is found behind the whitespace in front of it. -/
theorem isPrefixOf?_trimStart {blank part : Text} (white : blank.isBlank = true)
    (solid : StartsSolid part) (present : part ≠ []) (rest : Text) :
    part.isPrefixOf? (trimStart (blank ++ (part ++ rest))) = some rest := by
  rw [trimStart_append_of_isBlank white, trimStart_eq_self_iff.mpr (startsSolid_append solid present)]
  exact List.isPrefixOf?_eq_some_iff_append_eq.mpr rfl

theorem exists_of_isPrefixOf?_trimStart {part text rest : Text}
    (found : part.isPrefixOf? (trimStart text) = some rest) :
    ∃ before, before.isBlank = true ∧ text = before ++ (part ++ rest) := by
  rcases exists_trimStart text with ⟨before, white, same⟩
  rw [List.isPrefixOf?_eq_some_iff_append_eq.mp found]
  exact ⟨before, white, same⟩

theorem exists_trimEnd (text : Text) :
    ∃ after, after.isBlank = true ∧ text = trimEnd text ++ after := by
  refine ⟨text.rtakeWhile isSpace, isBlank_iff.mpr ?_, List.rdropWhile_append_rtakeWhile.symm⟩
  exact fun character listed => List.mem_rtakeWhile_imp listed

/-- Trimming at the end changes nothing but the length, and only makes it less. -/
theorem length_trimEnd_lt_iff {text : Text} :
    text.trimEnd.length < text.length ↔ text.trimEnd ≠ text := by
  rcases exists_trimEnd text with ⟨after, -, same⟩
  have size := congrArg List.length same
  rw [List.length_append] at size
  constructor
  · intro shorter equal
    rw [equal] at shorter
    omega
  · intro different
    have present : after ≠ [] := by
      intro none
      rw [none, List.append_nil] at same
      exact different same.symm
    have positive := List.length_pos_iff.mpr present
    omega

/-! ## Trimming both ends -/

/-- A text without whitespace at its ends, which is one that trimming keeps. -/
def Trimmed (text : Text) : Prop :=
  StartsSolid text ∧ EndsSolid text

@[simp] theorem trimmed_nil : Trimmed [] :=
  ⟨startsSolid_nil, endsSolid_nil⟩

theorem trim_eq_self {text : Text} (trimmed : Trimmed text) : trim text = text := by
  rw [trim, trimStart_eq_self_iff.mpr trimmed.1, trimEnd_eq_self_iff.mpr trimmed.2]

/-- Trimming at the end takes nothing solid away, so it keeps the start. -/
theorem startsSolid_trimEnd {text : Text} (solid : StartsSolid text) : StartsSolid (trimEnd text) := by
  rcases exists_trimEnd text with ⟨after, blank, same⟩
  cases kept : trimEnd text with
  | nil => exact startsSolid_nil
  | cons first rest =>
      rw [kept] at same
      rw [same, List.cons_append, startsSolid_cons] at solid
      exact startsSolid_cons.mpr solid

theorem trimmed_trim (text : Text) : Trimmed (trim text) :=
  ⟨startsSolid_trimEnd (startsSolid_trimStart text), endsSolid_trimEnd _⟩

@[simp] theorem trim_trim (text : Text) : trim (trim text) = trim text :=
  trim_eq_self (trimmed_trim text)

theorem trim_eq_nil_iff {text : Text} : trim text = [] ↔ text.isBlank = true := by
  rw [trim, trimEnd_eq_nil_iff]
  rcases exists_trimStart text with ⟨before, blank, same⟩
  conv_rhs => rw [same, isBlank_append, blank, Bool.true_and]

theorem trim_append_left {blank : Text} (white : blank.isBlank = true) (text : Text) :
    trim (blank ++ text) = trim text := by
  rw [trim, trimStart_append_of_isBlank white, ← trim]

theorem exists_trim (text : Text) :
    ∃ before after, before.isBlank = true ∧ after.isBlank = true ∧
      text = before ++ trim text ++ after := by
  rcases exists_trimStart text with ⟨before, blankBefore, sameStart⟩
  rcases exists_trimEnd (trimStart text) with ⟨after, blankAfter, sameEnd⟩
  refine ⟨before, after, blankBefore, blankAfter, ?_⟩
  rw [List.append_assoc, trim, ← sameEnd, ← sameStart]

/-- The trimmed form of a text is what stands in it between whitespace. -/
theorem trim_eq_of_split {before core after : Text} (blankBefore : before.isBlank = true)
    (blankAfter : after.isBlank = true) (trimmed : Trimmed core) :
    trim (before ++ core ++ after) = core := by
  rw [List.append_assoc, trim_append_left blankBefore, trim]
  cases core with
  | nil => rw [List.nil_append, trimEnd_eq_nil_iff.mpr]
           rw [trimStart_eq_nil_iff.mpr blankAfter, isBlank_nil]
  | cons first rest =>
      have solid : StartsSolid (first :: rest ++ after) :=
        startsSolid_append trimmed.1 (List.cons_ne_nil _ _)
      rw [trimStart_eq_self_iff.mpr solid, trimEnd_append_of_isBlank blankAfter,
        trimEnd_eq_self_iff.mpr trimmed.2]

theorem trim_append_right {blank : Text} (white : blank.isBlank = true) (text : Text) :
    trim (text ++ blank) = trim text := by
  rcases exists_trim text with ⟨before, after, blankBefore, blankAfter, same⟩
  have blankEnd : (after ++ blank).isBlank = true := by rw [isBlank_append, blankAfter, white]; rfl
  conv_lhs => rw [same, List.append_assoc]
  exact trim_eq_of_split blankBefore blankEnd (trimmed_trim text)

theorem trim_trimEnd (text : Text) : trim (trimEnd text) = trim text := by
  rcases exists_trimEnd text with ⟨after, blank, same⟩
  conv_rhs => rw [same]
  exact (trim_append_right blank _).symm

/-- Whitespace at the start is lost, so the trimmed text is shorter. -/
theorem length_trim_lt {text : Text} (loose : ¬ StartsSolid text) :
    (trim text).length < text.length := by
  rcases exists_trim text with ⟨before, after, -, -, same⟩
  have size := congrArg List.length same
  simp only [List.length_append] at size
  by_contra shorter
  have noBefore : before = [] := List.length_eq_zero_iff.mp (by omega)
  have noAfter : after = [] := List.length_eq_zero_iff.mp (by omega)
  rw [noBefore, noAfter, List.nil_append, List.append_nil] at same
  rw [same] at loose
  exact loose (trimmed_trim text).1

theorem isBlank_trim (text : Text) : (trim text).isBlank = text.isBlank := by
  rcases exists_trim text with ⟨before, after, blankBefore, blankAfter, same⟩
  conv_rhs => rw [same]
  simp [blankBefore, blankAfter]

/-- A text that is trimmed and blank has no character at all. -/
theorem eq_nil_of_isBlank {text : Text} (blank : text.isBlank = true) (trimmed : Trimmed text) :
    text = [] := by
  rw [← trim_eq_self trimmed, trim_eq_nil_iff.mpr blank]

/-- A text that starts with a solid character behind a margin still does when it is trimmed. -/
theorem head?_trim {blank : Text} (white : blank.isBlank = true) {first : Char} {rest : Text}
    (solid : isSpace first = false) : (trim (blank ++ first :: rest)).head? = some first := by
  rw [trim_append_left white, trim, trimStart_eq_self_iff.mpr (startsSolid_cons.mpr solid)]
  rcases exists_trimEnd (first :: rest) with ⟨after, -, same⟩
  cases kept : trimEnd (first :: rest) with
  | nil =>
      have white := trimEnd_eq_nil_iff.mp kept
      simp [isBlank, solid] at white
  | cons other others =>
      rw [kept] at same
      rw [List.head?_cons, (List.cons.inj same).1]

/-! ## Margins -/

theorem indent_append {blank text : Text} (white : blank.isBlank = true)
    (solid : StartsSolid text) : indent (blank ++ text) = blank.length := by
  rw [indent, List.takeWhile_append_of_pos (isBlank_iff.mp white)]
  cases text with
  | nil => simp
  | cons first rest =>
      rw [List.takeWhile_cons_of_neg (by rw [startsSolid_cons.mp solid]; decide)]
      simp

/-- A margin that is as wide as the unindenting goes is taken away as a whole. -/
theorem unindent_append {blank : Text} (white : blank.isBlank = true) (text : Text) :
    unindent blank.length (blank ++ text) = text := by
  induction blank with
  | nil => cases text <;> rfl
  | cons first rest inductionHypothesis =>
      have spaces := isBlank_iff.mp white
      have restWhite : isBlank rest = true :=
        isBlank_iff.mpr fun character listed => spaces character (List.mem_cons_of_mem _ listed)
      rw [List.length_cons, List.cons_append, unindent, if_pos (spaces first List.mem_cons_self),
        inductionHypothesis restWhite]

/-- Unindenting does not reach the end of a text that is not blank. -/
theorem unindent_append_right {text : Text} (solid : text.isBlank = false) (count : Nat) (rest : Text) :
    unindent count (text ++ rest) = unindent count text ++ rest := by
  induction count generalizing text with
  | zero => rfl
  | succ count inductionHypothesis =>
      cases text with
      | nil => cases solid
      | cons first later =>
          rw [List.cons_append, unindent, unindent]
          cases space : isSpace first with
          | false => rfl
          | true =>
              refine inductionHypothesis ?_
              simpa [isBlank, space] using solid

/-- What unindenting takes away is blank. -/
theorem exists_unindent (count : Nat) (text : Text) :
    ∃ before, before.isBlank = true ∧ text = before ++ unindent count text := by
  induction count generalizing text with
  | zero => exact ⟨[], rfl, by simp [unindent]⟩
  | succ count inductionHypothesis =>
      cases text with
      | nil => exact ⟨[], rfl, rfl⟩
      | cons first rest =>
          rw [unindent]
          cases space : isSpace first with
          | false => exact ⟨[], rfl, rfl⟩
          | true =>
              rcases inductionHypothesis rest with ⟨before, blank, same⟩
              refine ⟨first :: before, ?_, ?_⟩
              · simpa [isBlank, space] using blank
              · simpa using same

end Text
end Gherkin
