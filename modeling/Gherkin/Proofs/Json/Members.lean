import Gherkin.Document.Projection
import Mathlib.Data.List.Forall2

namespace Gherkin
namespace Json

/-!
# Members of JSON objects

An object is told by the values under its keys; in which order its members are listed says
nothing.  Two values are therefore the same if their items agree one by one and their members
key by key.

A projection to JSON carries a part of the data if data with the same projection agree in this
part.  A member that is left out says as much as one that is there, as long as only one thing is
left out under its key.
-/

/-- Equality of JSON values, for which the order of members makes no difference. -/
inductive Same : Json → Json → Prop
  | null : Same null null
  | bool (value : Bool) : Same (bool value) (bool value)
  | number (value : Int) : Same (number value) (number value)
  | string (value : Text) : Same (string value) (string value)
  | array {items others : List Json} (same : List.Forall₂ Same items others) :
      Same (array items) (array others)
  | object {members others : List (Text × Json)}
      (same : ∀ key, Option.Rel Same (member? key members) (member? key others)) :
      Same (object members) (object others)

theorem sizeOf_member? {key : Text} {members : List (Text × Json)} {value : Json}
    (found : member? key members = some value) : sizeOf value < sizeOf members := by
  rcases Option.map_eq_some_iff.mp found with ⟨⟨name, other⟩, listed, rfl⟩
  have smaller := List.sizeOf_lt_of_mem (List.mem_of_find?_eq_some listed)
  simp only [Prod.mk.sizeOf_spec] at smaller
  change sizeOf other < sizeOf members
  omega

theorem Same.refl : ∀ value : Json, Same value value
  | .null => .null
  | .bool value => .bool value
  | .number value => .number value
  | .string value => .string value
  | .array items => .array (List.forall₂_same.mpr fun item _ => Same.refl item)
  | .object members => by
      refine .object fun key => ?_
      cases found : member? key members with
      | none => exact .none
      | some value =>
          have smaller := sizeOf_member? found
          exact .some (Same.refl value)
termination_by value => sizeOf value

section

variable {items others : List Json} {members entries : List (Text × Json)}

@[simp] theorem same_number_iff {value other : Int} : Same (number value) (number other) ↔ value = other :=
  ⟨fun same => by cases same; rfl, fun same => same ▸ .number value⟩

@[simp] theorem same_string_iff {value other : Text} : Same (string value) (string other) ↔ value = other :=
  ⟨fun same => by cases same; rfl, fun same => same ▸ .string value⟩

@[simp] theorem same_array_iff : Same (array items) (array others) ↔ List.Forall₂ Same items others :=
  ⟨fun same => by cases same; assumption, .array⟩

/-! ## Looking up a member -/

/-- The value under a key that is given as a name. -/
def under (key : String) (members : List (Text × Json)) : Option Json :=
  member? key.toList members

theorem Same.under (same : Same (Json.object members) (Json.object entries)) (key : String) :
    Option.Rel Same (under key members) (under key entries) := by
  cases same with
  | object same => exact same key.toList

variable (key name : String)

@[simp] theorem under_append :
    under key (members ++ entries) = (under key members).or (under key entries) := by
  simp [under, member?, List.find?_append, Option.map_or]

@[simp] theorem under_field (value : Json) :
    under key (field name value) = if name = key then some value else none := by
  by_cases same : name = key <;> simp [under, member?, field, same, String.toList_inj]

@[simp] theorem under_optionalField (value : Option Json) :
    under key (optionalField name value) = if name = key then value else none := by
  cases value with
  | none => simp [under, member?, optionalField]
  | some value => simp [optionalField]

@[simp] theorem under_textField (text : Text) :
    under key (textField name text) =
      if name = key then (if text = [] then none else some (string text)) else none := by
  cases text with
  | nil => simp [under, member?, textField]
  | cons first rest => simp [textField]

@[simp] theorem under_listField (items : List Json) :
    under key (listField name items) =
      if name = key then (if items = [] then none else some (array items)) else none := by
  cases items with
  | nil => simp [under, member?, listField]
  | cons first rest => simp [listField]

end

/-! ## What is carried -/

/-- Data with the same projection agree in the part that `keep` keeps of them. -/
def Carries {α β : Type} (project : α → Json) (keep : α → β) : Prop :=
  ∀ first second, Same (project first) (project second) → keep first = keep second

variable {α β : Type} {project : α → Json} {keep : α → β}

theorem Carries.option (carries : Carries project keep) {first second : Option α}
    (same : Option.Rel Same (first.map project) (second.map project)) :
    first.map keep = second.map keep := by
  cases first with
  | none =>
      cases second with
      | none => rfl
      | some right => cases same
  | some left =>
      cases second with
      | none => cases same
      | some right =>
          cases same with
          | some same => exact congrArg some (carries left right same)

theorem Carries.list (carries : Carries project keep) {first second : List α}
    (same : List.Forall₂ Same (first.map project) (second.map project)) :
    first.map keep = second.map keep := by
  rw [List.forall₂_map_left_iff, List.forall₂_map_right_iff] at same
  rw [← List.forall₂_eq_eq_eq, List.forall₂_map_left_iff, List.forall₂_map_right_iff]
  exact same.imp carries

theorem string_carries : Carries string id :=
  fun _ _ => same_string_iff.mp

/-- An object with one member is told by its key and the value under it. -/
theorem Same.of_field {key name : String} {value other : Json}
    (same : Same (Json.object (field key value)) (Json.object (field name other))) :
    key = name ∧ Same value other := by
  have found : Option.Rel Same (some value) (if name = key then some other else none) := by
    simpa using same.under key
  split_ifs at found with named
  · exact ⟨named.symm, by simpa using found⟩
  · cases found

/-- A text that is left out was empty. -/
theorem eq_of_omitted {first second : Text}
    (same : Option.Rel Same (if first = [] then none else some (string first))
      (if second = [] then none else some (string second))) : first = second := by
  split_ifs at same with empty other other
  · exact empty.trans other.symm
  · cases same
  · cases same
  · exact same_string_iff.mp (by simpa using same)

/-- Items that are left out were none. -/
theorem forall₂_of_omitted {first second : List Json}
    (same : Option.Rel Same (if first = [] then none else some (array first))
      (if second = [] then none else some (array second))) : List.Forall₂ Same first second := by
  split_ifs at same with empty other other
  · rw [empty, other]
    exact .nil
  · cases same
  · cases same
  · exact same_array_iff.mp (by simpa using same)

end Json
end Gherkin
