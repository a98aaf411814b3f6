import IntentLint.Proofs.Entries
import IntentLint.Json.Basic

/-!
# `Proofs.Json.Parts` — looking into documents

What stands in a document is read off by these functions, which give an empty answer where there is nothing of
the kind. A document with distinct names is the same as what is read off under its names.
-/

namespace IntentLint
namespace Json

/-- The member of an object under a name; null when there is none. -/
def field (name : Text) (v : Json) : Json := (v.member? name).getD .null

/-- The text that a document is. -/
def text? : Json → Option Text
  | .text t => some t
  | _ => none

/-- What is there, unless it is null. -/
def unlessNull : Option Json → Option Json
  | some .null => none
  | found => found

/-- The members of an object. -/
def members : Json → List (Text × Json)
  | .object ms => ms
  | _ => []

/-- The items of an array. -/
def items : Json → List Json
  | .array vs => vs
  | _ => []

/-- The names of an object, in the order of its members. -/
def names : Json → List Text
  | .object members => Entries.keys members
  | _ => []

/-- The values of an object, in the order of its members. -/
def values : Json → List Json
  | .object members => Entries.values members
  | _ => []

/-- What is not null is there. -/
theorem eq_some_of_unlessNull {found : Option Json} {v : Json} (h : unlessNull found = some v) :
    found = some v ∧ v ≠ .null := by
  unfold unlessNull at h
  split at h
  · cases h
  · next hne =>
    refine ⟨h, ?_⟩
    rintro rfl
    exact hne h

theorem getD_unlessNull (found : Option Json) : (unlessNull found).getD .null = found.getD .null := by
  cases found with
  | none => rfl
  | some v => cases v <;> rfl

/-- A document with distinct names is read name by name. -/
theorem values_eq_map_field {v : Json} (h : v.names.Nodup) :
    v.values = v.names.map fun name => v.field name := by
  cases v with
  | object members =>
    have hmembers := congrArg Entries.values (Entries.eq_map_get? h .null)
    simp only [Entries.values, List.map_map] at hmembers
    exact hmembers
  | _ => rfl

end Json
end IntentLint
