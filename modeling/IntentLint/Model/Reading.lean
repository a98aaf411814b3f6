import IntentLint.Model.Basic
import IntentLint.Problem

/-!
# `Model.Reading` — language models from documents and back

The document of a model is an object with a member `intents` and perhaps one for entity types, which may be
spelled `entityTypes` or `entity_types`; the first spelling wins when both are there. Members without a
meaning are passed over. A reading converts nothing: a number is no text.
-/

namespace IntentLint

namespace EntityValue

/-- Reads a value with synonyms. -/
def structuredOfJson : Json → Reading EntityValue
  | .object members =>
    (Reading.both (Reading.required "value" Reading.text members)
      (Reading.possible "synonyms" (Reading.list Reading.text) members)).map
      fun (text, synonyms) => .structured text synonyms
  | _ => Reading.refuse (.notRecord .structuredValue)

/-- Reads a value: a text is a bare one. What fits neither form has the problems of both. -/
def ofJson : Json → Reading EntityValue
  | .text t => .ok (.bare t)
  | v =>
    match (structuredOfJson v).under .structured with
    | .ok value => .ok value
    | .error problems => .error (⟨[.bare], .notText⟩ :: problems)

/-- The document of a value. -/
def toJson : EntityValue → Json
  | .bare t => .text t
  | .structured t synonyms =>
    .object [("value", .text t),
      ("synonyms", (synonyms.map fun ss => Json.array (ss.map Json.text)).getD .null)]

end EntityValue

namespace EntityType

/-- Reads an entity type. -/
def ofJson : Json → Reading EntityType
  | .object members =>
    (Reading.possible "values" (Reading.list EntityValue.ofJson) members).map EntityType.mk
  | _ => Reading.refuse (.notRecord .entityType)

/-- The document of an entity type. -/
def toJson (type : EntityType) : Json :=
  .object [("values", (type.values.map fun vs => Json.array (vs.map EntityValue.toJson)).getD .null)]

end EntityType

namespace Intent

/-- Reads an intent. -/
def ofJson : Json → Reading Intent
  | .object members =>
    (Reading.possible "phrases" (Reading.list Reading.text) members).map Intent.mk
  | _ => Reading.refuse (.notRecord .intent)

/-- The document of an intent. -/
def toJson (intent : Intent) : Json :=
  .object [("phrases", (intent.phrases.map fun ps => Json.array (ps.map Json.text)).getD .null)]

end Intent

namespace LanguageModel

/-- The spelling of the entity-type member that counts in an object. -/
def entityTypesName (members : List (Text × Json)) : Text :=
  match Entries.get? ("entityTypes" : Text) members with
  | some _ => "entityTypes"
  | none => "entity_types"

/-- Reads a language model. -/
def ofJson : Json → Reading LanguageModel
  | .object members =>
    (Reading.both (Reading.required "intents" (Reading.table Intent.ofJson) members)
      (Reading.possible (entityTypesName members) (Reading.table EntityType.ofJson) members)).map
      fun (intents, types) => ⟨intents, types⟩
  | _ => Reading.refuse (.notRecord .languageModel)

/-- The document of a language model. -/
def toJson (m : LanguageModel) : Json :=
  .object [("intents", .object (m.intents.map fun (name, intent) => (name, intent.toJson))),
    ("entityTypes",
      (m.entityTypes.map fun types =>
        Json.object (types.map fun (name, type) => (name, type.toJson))).getD .null)]

end LanguageModel
end IntentLint
