import IntentLint.Proofs.Check.Bracket
import IntentLint.Proofs.Check.Clash
import IntentLint.Proofs.Linter.Tally
import IntentLint.Proofs.Text.Trim

/-!
# `Proofs.Linter.Verdict` — which models pass the standard checks

A model is *clean* when its phrases have distinct keys, its values and synonyms have distinct keys, none of
these texts starts or ends with a blank, and every phrase is bracketed. This is said without the checks, over
the texts of the model alone.

Each check is silent on exactly the models that meet its part of the definition, and no standard check breaks
down. So the verdict of the standard linter is that the model is clean, and on a clean model no sink is
called.
-/

namespace IntentLint

/-! ## Clean models -/

/-- The texts by which an entity value is recognised: its own and its synonyms. -/
def EntityValue.texts : EntityValue → List Text
  | .bare t => [t]
  | .structured t synonyms => t :: synonyms.getD []

namespace LanguageModel

/-- The phrases of all intents, one after the other. -/
def phraseTexts (m : LanguageModel) : List Text :=
  m.intents.flatMap fun entry => entry.2.phrases.getD []

/-- The values and synonyms of all entity types, one after the other. -/
def valueTexts (m : LanguageModel) : List Text :=
  (m.entityTypes.getD []).flatMap fun entry => (entry.2.values.getD []).flatMap EntityValue.texts

/-- A model that has nothing wrong with its texts. -/
structure Clean (m : LanguageModel) : Prop where
  phrases_distinct : (m.phraseTexts.map Text.key).Nodup
  values_distinct : (m.valueTexts.map Text.key).Nodup
  no_outer_blank : ∀ t ∈ m.phraseTexts ++ m.valueTexts, ¬ t.StartsBlank ∧ ¬ t.EndsBlank
  phrases_bracketed : ∀ t ∈ m.phraseTexts, t.Bracketed

theorem phrases_eq_flatMap (m : LanguageModel) :
    m.phrases = m.intents.flatMap fun entry => (entry.2.phrases.getD []).map (Phrase.mk entry.1) := rfl

theorem slots_eq_flatMap (m : LanguageModel) :
    m.slots =
      (m.entityTypes.getD []).flatMap fun entry => (entry.2.values.getD []).flatMap (·.slots entry.1) := by
  simp only [slots, values, List.flatMap_assoc, List.flatMap_map]

theorem map_text_phrases (m : LanguageModel) : m.phrases.map (·.text) = m.phraseTexts := by
  simp [phrases, phraseTexts, List.map_flatMap, Function.comp_def]

theorem map_text_slots_value (entityType : Text) (value : EntityValue) :
    (value.slots entityType).map (·.text) = value.texts := by
  cases value with
  | bare t => rfl
  | structured t synonyms => simp [EntityValue.slots, EntityValue.texts, Function.comp_def]

theorem map_text_slots (m : LanguageModel) : m.slots.map (·.text) = m.valueTexts := by
  simp [slots_eq_flatMap, valueTexts, List.map_flatMap, map_text_slots_value]

end LanguageModel

/-! ## When each check is silent -/

variable {m : LanguageModel} {locale : Text}

theorem duplicatePhrases_eq_nil_iff :
    duplicatePhrases m locale = [] ↔ (m.phraseTexts.map Text.key).Nodup := by
  unfold duplicatePhrases
  rw [List.map_eq_nil_iff, clashes_eq_nil_iff, ← LanguageModel.map_text_phrases, List.map_map]
  rfl

theorem duplicateValues_eq_nil_iff :
    duplicateValues m locale = [] ↔ (m.valueTexts.map Text.key).Nodup := by
  unfold duplicateValues
  rw [List.map_eq_nil_iff, clashes_eq_nil_iff, ← LanguageModel.map_text_slots, List.map_map]
  rfl

/-- Nothing in a list has an outer blank when none of its texts starts or ends with a blank. -/
theorem filter_hasOuterBlank_eq_nil_iff {α : Type} {text : α → Text} {uses : List α} :
    uses.filter (fun use => (text use).hasOuterBlank) = [] ↔
      ∀ t ∈ uses.map text, ¬ t.StartsBlank ∧ ¬ t.EndsBlank := by
  simp only [List.filter_eq_nil_iff, Text.hasOuterBlank_iff, not_or, List.mem_map,
    forall_exists_index, and_imp, forall_apply_eq_imp_iff₂]

theorem outerBlankPhrases_eq_nil_iff :
    outerBlankPhrases m locale = [] ↔ ∀ t ∈ m.phraseTexts, ¬ t.StartsBlank ∧ ¬ t.EndsBlank := by
  unfold outerBlankPhrases
  rw [List.map_eq_nil_iff, filter_hasOuterBlank_eq_nil_iff, LanguageModel.map_text_phrases]

theorem outerBlankValues_eq_nil_iff :
    outerBlankValues m locale = [] ↔ ∀ t ∈ m.valueTexts, ¬ t.StartsBlank ∧ ¬ t.EndsBlank := by
  unfold outerBlankValues
  rw [List.map_eq_nil_iff, filter_hasOuterBlank_eq_nil_iff, LanguageModel.map_text_slots]

theorem bracketFaults_eq_nil_iff :
    bracketFaults m locale = [] ↔ ∀ t ∈ m.phraseTexts, t.Bracketed := by
  unfold bracketFaults
  simp only [List.filterMap_eq_nil_iff, Option.map_eq_none_iff, bracketFault_eq_none_iff,
    ← LanguageModel.map_text_phrases, List.mem_map, forall_exists_index, and_imp,
    forall_apply_eq_imp_iff₂]

/-! ## The standard linter -/

namespace Linter

/-- The standard checks come to the findings of all five, and none of them breaks down. -/
theorem tally_standard : tally m locale Check.standard =
    ⟨duplicatePhrases m locale ++ (duplicateValues m locale ++ (outerBlankPhrases m locale ++
      (outerBlankValues m locale ++ bracketFaults m locale))), []⟩ := by
  simp [tally, Check.standard, Check.findingsIn, Check.breaksOn, Check.ofFindings,
    Check.duplicatePhrase, Check.duplicateValue, Check.phraseBlank, Check.valueBlank, Check.bracket]

/-- **The standard checks find nothing in exactly the clean models.** -/
theorem findings_standard_eq_nil_iff : (standard.report m locale).findings = [] ↔ m.Clean := by
  have hfindings : (standard.report m locale).findings = (tally m locale Check.standard).findings := rfl
  rw [hfindings, tally_standard]
  simp only [List.append_eq_nil_iff, duplicatePhrases_eq_nil_iff, duplicateValues_eq_nil_iff,
    outerBlankPhrases_eq_nil_iff, outerBlankValues_eq_nil_iff, bracketFaults_eq_nil_iff]
  constructor
  · rintro ⟨hphrases, hvalues, hblank, hblank', hbrackets⟩
    refine ⟨hphrases, hvalues, ?_, hbrackets⟩
    intro t ht
    rcases List.mem_append.mp ht with ht | ht
    · exact hblank t ht
    · exact hblank' t ht
  · intro h
    exact ⟨h.phrases_distinct, h.values_distinct,
      fun t ht => h.no_outer_blank t (List.mem_append_left _ ht),
      fun t ht => h.no_outer_blank t (List.mem_append_right _ ht), h.phrases_bracketed⟩

theorem failedChecks_standard : (standard.report m locale).failedChecks = [] := by
  have hfailed : (standard.report m locale).failedChecks = (tally m locale Check.standard).failedChecks :=
    rfl
  rw [hfailed, tally_standard]

/-- The standard report passes exactly when it has no findings. -/
theorem passed_standard_iff : (standard.report m locale).passed = true ↔ m.Clean := by
  rw [← @findings_standard_eq_nil_iff m locale]
  have hpassed : (standard.report m locale).passed =
      ((standard.report m locale).findings.isEmpty && (standard.report m locale).failedChecks.isEmpty) :=
    rfl
  rw [hpassed, failedChecks_standard]
  simp

/-- **The verdict of the standard linter.** Linting a model ends with a report unless the sink refuses a
finding. The report passes exactly when the model is clean, and then it is empty and the run is the one
without a sink: not even a sink that refuses everything can tell. -/
theorem lint_standard_passed_iff (m : LanguageModel) (locale : Text) (sink? : Option Sink)
    (held : List Finding) :
    (Sink.Willing sink? ∨ m.Clean →
      ∃ r, (standard.lint sink? held (.model m) locale).outcome = .ok r) ∧
    ∀ r, (standard.lint sink? held (.model m) locale).outcome = .ok r →
      (r.passed = true ↔ m.Clean) ∧
      (r.passed = true → r.findings = [] ∧ r.summary = [] ∧ r.failedChecks = [] ∧ r.error = none ∧
        (standard.lint sink? held (.model m) locale).delivered = [] ∧
        standard.lint sink? held (.model m) locale = standard.lint none [] (.model m) locale) := by
  simp only [lint_model]
  -- on a clean model the run does not depend on the sink, so it succeeds even with one that refuses
  have hsilent : m.Clean →
      standard.lintModel sink? held m locale = standard.lintModel none [] m locale := by
    intro hclean
    unfold lintModel
    rw [runChecks_of_silent (findings_standard_eq_nil_iff.mpr hclean)]
  refine ⟨?_, fun r hr => ?_⟩
  · rintro (hs | hclean)
    · exact ⟨_, outcome_lintModel hs standard held⟩
    · rw [hsilent hclean]
      exact ⟨_, outcome_lintModel Sink.willing_none standard []⟩
  · have hreport : r = standard.report m locale := lintModel_eq_ok hr
    have hpassed : r.passed = true ↔ m.Clean := by
      rw [hreport]
      exact passed_standard_iff
    refine ⟨hpassed, fun hp => ?_⟩
    have hclean : m.Clean := hpassed.mp hp
    have hfindings : r.findings = [] := by
      rw [hreport]
      exact findings_standard_eq_nil_iff.mpr hclean
    have hdelivered := delivered_lintModel hr
    rw [hfindings, ite_self] at hdelivered
    have hsummary : r.summary = Report.summarize r.findings := by
      rw [hreport]
      rfl
    refine ⟨hfindings, ?_, ?_, ?_, hdelivered, hsilent hclean⟩
    · rw [hsummary, hfindings]
      rfl
    · rw [hreport]
      exact failedChecks_standard
    · rw [hreport]
      rfl

end Linter
end IntentLint
