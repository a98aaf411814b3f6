import IntentLint.Check.Clash
import IntentLint.Model.Slot

/-!
# `Check.Duplicate` — texts that lead to more than one place

A phrase may belong to one intent only, and once. A text may stand for one entity value only: values and
synonyms share one record of owners, where a value is owned by its entity type and a synonym by its value.
-/

namespace IntentLint

namespace LanguageModel.Phrase

/-- The finding of a phrase whose key an earlier phrase of some intent has. -/
def duplicate (locale : Text) (p : Phrase) (owner : Text) : Finding :=
  { code := .duplicatePhrase
    locale := locale
    message := "phrase '" ++ p.text.key ++ "' is used in both intents '" ++ owner ++ "' and '" ++
      p.intent ++ "' in '" ++ locale ++ "' model. "
    text := p.text.key
    intent := some p.intent
    entityType := none }

end LanguageModel.Phrase

namespace Slot

/-- The owner of the key of a slot. -/
def owner (s : Slot) : Text := s.target.key

/-- What the text of a slot is called. -/
def label : SlotKind → Text
  | .value => "value"
  | .synonym => "synonym/value"

/-- The finding of a slot whose key an earlier slot of some owner has. -/
def duplicate (locale : Text) (s : Slot) (owner : Text) : Finding :=
  { code := match s.kind with
      | .value => .duplicateEntityValue
      | .synonym => .duplicateEntitySynonym
    locale := locale
    message := label s.kind ++ " '" ++ s.text.key ++ "' is used at least twice in both entity types '" ++
      owner ++ "' and '" ++ s.entityType ++ "' in '" ++ locale ++ "' model. "
    text := s.text.key
    intent := none
    entityType := some s.entityType }

end Slot

/-- The phrases whose key an earlier phrase has. -/
def duplicatePhrases (m : LanguageModel) (locale : Text) : List Finding :=
  (clashes (·.text.key) (·.intent) m.phrases).map fun (p, owner) => p.duplicate locale owner

/-- The values and synonyms whose key an earlier value or synonym has. -/
def duplicateValues (m : LanguageModel) (locale : Text) : List Finding :=
  (clashes (·.text.key) Slot.owner m.slots).map fun (s, owner) => s.duplicate locale owner

/-- No two phrases may have the same key. -/
def Check.duplicatePhrase : Check := .ofFindings "DuplicatePhraseValidator" duplicatePhrases

/-- No two values or synonyms may have the same key. -/
def Check.duplicateValue : Check := .ofFindings "DuplicateEntityValueValidator" duplicateValues

end IntentLint
