import IntentLint.Check.Duplicate

/-!
# `Check.OuterBlank` — texts with blanks at an end

Phrases, values and synonyms are written without blanks around them.
-/

namespace IntentLint

/-- The finding of a phrase with a blank at an end. -/
def LanguageModel.Phrase.outerBlank (locale : Text) (p : Phrase) : Finding :=
  { code := .whitespacePhrase
    locale := locale
    message := "phrase '" ++ p.text ++ "' has superfluous whitespace in intent '" ++ p.intent ++
      "' in '" ++ locale ++ "' model. "
    text := p.text
    intent := some p.intent
    entityType := none }

/-- The finding of a slot with a blank at an end. -/
def Slot.outerBlank (locale : Text) (s : Slot) : Finding :=
  { code := match s.kind with
      | .value => .whitespaceEntityValue
      | .synonym => .whitespaceEntitySynonym
    locale := locale
    message := label s.kind ++ " '" ++ s.text ++ "' has superfluous whitespace in entity type '" ++
      s.entityType ++ "' in '" ++ locale ++ "' model. "
    text := s.text
    intent := none
    entityType := some s.entityType }

/-- The phrases with a blank at an end. -/
def outerBlankPhrases (m : LanguageModel) (locale : Text) : List Finding :=
  (m.phrases.filter (·.text.hasOuterBlank)).map (·.outerBlank locale)

/-- The values and synonyms with a blank at an end. -/
def outerBlankValues (m : LanguageModel) (locale : Text) : List Finding :=
  (m.slots.filter (·.text.hasOuterBlank)).map (·.outerBlank locale)

/-- No phrase may have a blank at an end. -/
def Check.phraseBlank : Check := .ofFindings "PhraseWhitespaceValidator" outerBlankPhrases

/-- No value or synonym may have a blank at an end. -/
def Check.valueBlank : Check := .ofFindings "EntityTypeWhitespaceValidator" outerBlankValues

end IntentLint
