import IntentLint.Model.Basic

/-!
# `Model.Slot` — the texts of entity values

Every text by which an entity value can be recognised takes a slot: the text of the value itself, then its
synonyms one by one.
-/

namespace IntentLint

/-- Whether a slot holds the text of a value or one of its synonyms. -/
inductive SlotKind where
  | value
  | synonym
deriving DecidableEq

/-- A text by which an entity value is recognised. -/
structure Slot where
  kind : SlotKind
  entityType : Text
  /-- The name that recognising this slot leads to: the entity type for a value, the value for a synonym. -/
  target : Text
  text : Text
deriving DecidableEq

/-- The slots of a value of an entity type. -/
def EntityValue.slots (entityType : Text) : EntityValue → List Slot
  | .bare t => [⟨.value, entityType, entityType, t⟩]
  | .structured t synonyms =>
    ⟨.value, entityType, entityType, t⟩ ::
      (synonyms.getD []).map fun s => ⟨.synonym, entityType, t, s⟩

/-- The slots of a model, value by value. -/
def LanguageModel.slots (m : LanguageModel) : List Slot :=
  m.values.flatMap fun (entityType, value) => value.slots entityType

end IntentLint
