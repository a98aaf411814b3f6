import IntentLint.Check.Standard
import IntentLint.Proofs.Check.Bracket
import IntentLint.Proofs.Check.Clash
import IntentLint.Proofs.Text.Trim

/-!
# `Proofs.Edit.Trimmed` — what trimming the texts of a model does to the findings

To trim a model is to trim every phrase, value and synonym in it and to leave the names of intents and entity
types alone. Its phrases and slots are then those of the model with trimmed texts, and each check can be
followed from the one list to the other: the keys are the same, no text has an outer blank any more, and the
scan for braces does not notice the blanks that are gone.
-/

namespace IntentLint

/-! ## Trimmed texts -/

namespace Text

theorem key_trim (t : Text) : (trim t).key = t.key := by
  unfold key
  rw [trim_trim]

/-- A blank is no brace. -/
theorem braceFree_of_blank {t : Text} (h : ∀ c ∈ t, c.isBlank = true) : BraceFree t := by
  intro c hc
  have hblank := h c hc
  constructor <;>
  · rintro rfl
    revert hblank
    decide

end Text

/-- The first fault of a phrase does not depend on the blanks at its ends. -/
theorem bracketFault_trim (t : Text) : bracketFault? t.trim = bracketFault? t := by
  obtain ⟨l, r, hl, hr, ht⟩ := Text.exists_append_trim_append t
  unfold bracketFault?
  conv_rhs => rw [ht]
  rw [bracketFaultFrom_append (Text.braceFree_of_blank hl),
    bracketFaultFrom_append_braceFree _ (Text.braceFree_of_blank hr)]

/-! ## Models with other texts -/

/-- A value with a function applied to its text and its synonyms. -/
def EntityValue.mapTexts (f : Text → Text) : EntityValue → EntityValue
  | .bare t => .bare (f t)
  | .structured t synonyms => .structured (f t) (synonyms.map (List.map f))

/-- An entity type with a function applied to the texts of its values. -/
def EntityType.mapTexts (f : Text → Text) (type : EntityType) : EntityType :=
  ⟨type.values.map (List.map (EntityValue.mapTexts f))⟩

/-- An intent with a function applied to its phrases. -/
def Intent.mapTexts (f : Text → Text) (intent : Intent) : Intent := ⟨intent.phrases.map (List.map f)⟩

/-- A slot with a function applied to its text and, for a synonym, to the text of its value. -/
def Slot.mapTexts (f : Text → Text) (s : Slot) : Slot :=
  { s with
    text := f s.text
    target := match s.kind with
      | .value => s.target
      | .synonym => f s.target }

namespace LanguageModel

/-- A phrase with a function applied to its text. -/
def Phrase.mapText (f : Text → Text) (p : Phrase) : Phrase := { p with text := f p.text }

/-- A model with a function applied to every phrase, value and synonym. Names are left alone. -/
def mapTexts (f : Text → Text) (m : LanguageModel) : LanguageModel where
  intents := m.intents.map fun (name, intent) => (name, intent.mapTexts f)
  entityTypes := m.entityTypes.map (List.map fun (name, type) => (name, type.mapTexts f))

/-- A model with its phrases, values and synonyms trimmed. -/
def trimmed (m : LanguageModel) : LanguageModel := m.mapTexts Text.trim

theorem phrases_mapTexts (f : Text → Text) (m : LanguageModel) :
    (m.mapTexts f).phrases = m.phrases.map (Phrase.mapText f) := by
  have hintent : ∀ (name : Text) (intent : Intent),
      ((intent.mapTexts f).phrases.getD []).map (Phrase.mk name) =
        ((intent.phrases.getD []).map (Phrase.mk name)).map (Phrase.mapText f) := by
    rintro name ⟨_ | phrases⟩ <;> simp [Intent.mapTexts, Phrase.mapText]
  simp only [phrases, mapTexts, List.flatMap_map, List.map_flatMap, hintent]

theorem slots_mapTexts_value (f : Text → Text) (entityType : Text) (value : EntityValue) :
    (value.mapTexts f).slots entityType = (value.slots entityType).map (Slot.mapTexts f) := by
  rcases value with t | ⟨t, _ | synonyms⟩ <;> simp [EntityValue.mapTexts, EntityValue.slots, Slot.mapTexts]

theorem slots_mapTexts (f : Text → Text) (m : LanguageModel) :
    (m.mapTexts f).slots = m.slots.map (Slot.mapTexts f) := by
  have htype : ∀ (name : Text) (type : EntityType),
      (((type.mapTexts f).values.getD []).map fun v => (name, v)) =
        ((type.values.getD []).map fun v => (name, v)).map fun e => (e.1, e.2.mapTexts f) := by
    rintro name ⟨_ | values⟩ <;> simp [EntityType.mapTexts]
  have hvalues : (m.mapTexts f).values = m.values.map fun e => (e.1, e.2.mapTexts f) := by
    rcases m with ⟨intents, _ | types⟩
    · rfl
    · simp only [values, mapTexts, Option.map_some, Option.getD_some, List.flatMap_map, List.map_flatMap,
        htype]
  simp only [slots, hvalues, List.flatMap_map, List.map_flatMap, slots_mapTexts_value]

/-! ## Findings in a trimmed model -/

variable (m : LanguageModel) (locale : Text)

theorem outerBlankPhrases_trimmed : outerBlankPhrases m.trimmed locale = [] := by
  unfold outerBlankPhrases trimmed
  rw [phrases_mapTexts, List.filter_map]
  simp [Function.comp_def, Phrase.mapText, Text.hasOuterBlank_trim]

theorem outerBlankValues_trimmed : outerBlankValues m.trimmed locale = [] := by
  unfold outerBlankValues trimmed
  rw [slots_mapTexts, List.filter_map]
  simp [Function.comp_def, Slot.mapTexts, Text.hasOuterBlank_trim]

theorem duplicatePhrases_trimmed : duplicatePhrases m.trimmed locale = duplicatePhrases m locale := by
  unfold duplicatePhrases trimmed
  rw [phrases_mapTexts, clashes_map, List.map_map]
  simp only [Function.comp_def, Phrase.mapText, Phrase.duplicate, Text.key_trim]

/-- A trimmed value has the key that it had, so its synonyms have the same owner. -/
theorem owner_mapTexts_trim (s : Slot) : (s.mapTexts Text.trim).owner = s.owner := by
  rcases s with ⟨_ | _, entityType, target, t⟩
  · rfl
  · exact Text.key_trim target

theorem duplicateValues_trimmed : duplicateValues m.trimmed locale = duplicateValues m locale := by
  have hkey : (fun s : Slot => (s.mapTexts Text.trim).text.key) = fun s => s.text.key :=
    funext fun s => Text.key_trim s.text
  have hduplicate : ∀ (s : Slot) (owner : Text),
      (s.mapTexts Text.trim).duplicate locale owner = s.duplicate locale owner := by
    intro s owner
    simp only [Slot.duplicate, Slot.mapTexts, Text.key_trim]
  unfold duplicateValues trimmed
  rw [slots_mapTexts, clashes_map, List.map_map]
  simp only [Function.comp_def, hkey, hduplicate, owner_mapTexts_trim]

/-- The findings about braces quote the trimmed phrases, and are otherwise the same. -/
theorem bracketFaults_trimmed :
    (bracketFaults m.trimmed locale).map (fun f => (f.intent, f.code)) =
      (bracketFaults m locale).map fun f => (f.intent, f.code) := by
  unfold bracketFaults trimmed
  rw [phrases_mapTexts, List.filterMap_map, List.map_filterMap, List.map_filterMap]
  simp only [Function.comp_def, Phrase.mapText, bracketFault_trim, Option.map_map, Phrase.bracket]

/-- **Trimming the texts of a model takes away its outer blanks and nothing else.** On the trimmed model the
checks for outer blanks find nothing, the checks for duplicates find what they found, word for word, and the
check for braces finds the same faults in the same intents. -/
theorem findings_trimmed :
    outerBlankPhrases m.trimmed locale = [] ∧ outerBlankValues m.trimmed locale = [] ∧
      duplicatePhrases m.trimmed locale = duplicatePhrases m locale ∧
      duplicateValues m.trimmed locale = duplicateValues m locale ∧
      (bracketFaults m.trimmed locale).map (fun f => (f.intent, f.code)) =
        (bracketFaults m locale).map fun f => (f.intent, f.code) :=
  ⟨outerBlankPhrases_trimmed m locale, outerBlankValues_trimmed m locale,
    duplicatePhrases_trimmed m locale, duplicateValues_trimmed m locale, bracketFaults_trimmed m locale⟩

end LanguageModel
end IntentLint
