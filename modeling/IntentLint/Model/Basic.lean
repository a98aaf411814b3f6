import IntentLint.Text.Basic

/-!
# `Model.Basic` — language models

A language model says what a conversational assistant understands: intents with their example phrases, and
entity types with their values. Texts are kept exactly as written. Intents and entity types stand in the
order of the document.
-/

namespace IntentLint

/-- A value of an entity type: a text alone, or a text with synonyms. -/
inductive EntityValue where
  | bare (text : Text)
  | structured (text : Text) (synonyms : Option (List Text))
deriving DecidableEq

/-- A named category of recognisable values. -/
structure EntityType where
  values : Option (List EntityValue)
deriving DecidableEq

/-- A goal of the user, with example phrases. -/
structure Intent where
  phrases : Option (List Text)
deriving DecidableEq

/-- The language model of one locale. -/
structure LanguageModel where
  intents : List (Text × Intent)
  entityTypes : Option (List (Text × EntityType))
deriving DecidableEq

namespace LanguageModel

/-! ## What the checks go through -/

/-- A phrase and the intent it belongs to. -/
structure Phrase where
  intent : Text
  text : Text
deriving DecidableEq

/-- The phrases of a model, intent by intent. -/
def phrases (m : LanguageModel) : List Phrase :=
  m.intents.flatMap fun (name, intent) => (intent.phrases.getD []).map (Phrase.mk name)

/-- The values of a model with their entity types, type by type. -/
def values (m : LanguageModel) : List (Text × EntityValue) :=
  (m.entityTypes.getD []).flatMap fun (name, type) => (type.values.getD []).map fun v => (name, v)

end LanguageModel
end IntentLint
