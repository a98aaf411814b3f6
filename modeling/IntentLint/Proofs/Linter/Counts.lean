import IntentLint.Proofs.Edit.Rearranged
import IntentLint.Proofs.Report

/-!
# `Proofs.Linter.Counts` — what the report of a model counts

The codes tell the findings of a report apart: those about duplicate phrases, those about duplicate values and
synonyms, and those about one text alone. So the texts under the codes of a check are the texts of what the
check found (`textsOf_duplicatePhrase`, `textsOf_duplicateEntity`, `textsOf_lone`), and the counts of the report
are the numbers of these texts.
-/

namespace IntentLint

/-- The texts of the findings that have one of some codes. -/
def Report.textsOf (codes : List Code) (r : Report) : List Text :=
  (r.findings.filter fun f => f.code ∈ codes).map (·.text)

variable {m : LanguageModel} {locale : Text}

/-! ## The codes of a check -/

namespace Code

/-- The codes of duplicate values and synonyms. -/
def duplicateEntity : List Code := [.duplicateEntityValue, .duplicateEntitySynonym]

/-- The codes of findings about one text alone. -/
def lone : List Code :=
  [.whitespacePhrase, .whitespaceEntityValue, .whitespaceEntitySynonym, .bracketMissingClosing,
   .bracketMissingOpening]

theorem mem_lone_of_ne {code : Code} (hphrase : code ≠ .duplicatePhrase) (hvalue : code ≠ .duplicateEntityValue)
    (hsynonym : code ≠ .duplicateEntitySynonym) : code ∈ lone := by
  cases code <;> simp_all [lone]

end Code

theorem code_mem_of_duplicatePhrases : ∀ f ∈ duplicatePhrases m locale, f.code ∈ [Code.duplicatePhrase] := by
  intro f hf
  obtain ⟨clash, -, rfl⟩ := List.mem_map.mp hf
  exact List.mem_singleton_self _

theorem code_mem_of_duplicateValues : ∀ f ∈ duplicateValues m locale, f.code ∈ Code.duplicateEntity := by
  intro f hf
  obtain ⟨⟨⟨kind, entityType, target, t⟩, owner⟩, -, rfl⟩ := List.mem_map.mp hf
  cases kind <;> simp [Slot.duplicate, Code.duplicateEntity]

theorem code_mem_of_loneFindings : ∀ f ∈ m.loneFindings locale, f.code ∈ Code.lone := by
  intro f hf
  unfold LanguageModel.loneFindings at hf
  rcases List.mem_append.mp hf with hf | hf
  · obtain ⟨p, -, rfl⟩ := List.mem_map.mp hf
    simp [LanguageModel.Phrase.outerBlank, Code.lone]
  rcases List.mem_append.mp hf with hf | hf
  · obtain ⟨⟨kind, entityType, target, t⟩, -, rfl⟩ := List.mem_map.mp hf
    cases kind <;> simp [Slot.outerBlank, Code.lone]
  · obtain ⟨p, -, hp⟩ := List.mem_filterMap.mp hf
    obtain ⟨fault, -, rfl⟩ := Option.map_eq_some_iff.mp hp
    cases fault <;> simp [LanguageModel.Phrase.bracket, BracketFault.code, Code.lone]

theorem filter_codes_eq_self {findings : List Finding} {codes : List Code}
    (h : ∀ f ∈ findings, f.code ∈ codes) : findings.filter (·.code ∈ codes) = findings :=
  List.filter_eq_self.mpr fun f hf => decide_eq_true (h f hf)

theorem filter_codes_eq_nil {findings : List Finding} {own codes : List Code}
    (h : ∀ f ∈ findings, f.code ∈ own) (hother : ∀ code ∈ own, code ∉ codes) :
    findings.filter (·.code ∈ codes) = [] := by
  rw [List.filter_eq_nil_iff]
  intro f hf
  rw [decide_eq_true_eq]
  exact hother f.code (h f hf)

namespace Linter

/-! ## Counts and texts -/

/-- The count of a code is the number of texts under it. -/
theorem count_report (linter : Linter) (code : Code) :
    (linter.report m locale).count code = ((linter.report m locale).textsOf [code]).length := by
  have hcount : (linter.report m locale).count code =
      ((linter.report m locale).findings.map (·.code)).count code := Report.get?_summarize _ code
  rw [hcount, Report.textsOf, List.length_map, ← List.countP_eq_length_filter, List.count, List.countP_map]
  refine List.countP_congr fun f _ => ?_
  simp

theorem count_report_add (linter : Linter) {code code' : Code} (h : code ≠ code') :
    (linter.report m locale).count code + (linter.report m locale).count code' =
      ((linter.report m locale).textsOf [code, code']).length := by
  rw [count_report, count_report]
  simp only [Report.textsOf, List.length_map, List.mem_cons, List.not_mem_nil, or_false]
  induction (linter.report m locale).findings with
  | nil => rfl
  | cons f rest ih =>
    simp only [List.filter_cons, decide_eq_true_eq]
    by_cases hf : f.code = code
    · have hf' : f.code ≠ code' := fun hf' => h (hf.symm.trans hf')
      rw [if_pos hf, if_neg hf', if_pos (Or.inl hf), List.length_cons, List.length_cons, ← ih]
      omega
    · by_cases hf' : f.code = code'
      · rw [if_neg hf, if_pos hf', if_pos (Or.inr hf'), List.length_cons, List.length_cons, ← ih]
        rfl
      · rw [if_neg hf, if_neg hf', if_neg (not_or.mpr ⟨hf, hf'⟩), ih]

/-! ## The standard report -/

theorem findings_standard : (standard.report m locale).findings =
    duplicatePhrases m locale ++ (duplicateValues m locale ++ m.loneFindings locale) :=
  congrArg Tally.findings tally_standard

theorem textsOf_standard (codes : List Code) : (standard.report m locale).textsOf codes =
    ((duplicatePhrases m locale).filter (·.code ∈ codes)).map (·.text) ++
      (((duplicateValues m locale).filter (·.code ∈ codes)).map (·.text) ++
        ((m.loneFindings locale).filter (·.code ∈ codes)).map (·.text)) := by
  rw [Report.textsOf, findings_standard, List.filter_append, List.filter_append, List.map_append,
    List.map_append]

/-- The texts of duplicate phrases are the keys of the phrases that clash. -/
theorem textsOf_duplicatePhrase : (standard.report m locale).textsOf [.duplicatePhrase] =
    (clashes (·.text.key) (·.intent) m.phrases).map fun clash => clash.1.text.key := by
  rw [textsOf_standard, filter_codes_eq_self code_mem_of_duplicatePhrases,
    filter_codes_eq_nil code_mem_of_duplicateValues (by decide),
    filter_codes_eq_nil code_mem_of_loneFindings (by decide), List.map_nil, List.append_nil, List.append_nil,
    duplicatePhrases, List.map_map]
  rfl

/-- The texts of duplicate values and synonyms are the keys of the slots that clash. -/
theorem textsOf_duplicateEntity : (standard.report m locale).textsOf Code.duplicateEntity =
    (clashes (·.text.key) Slot.owner m.slots).map fun clash => clash.1.text.key := by
  rw [textsOf_standard, filter_codes_eq_nil code_mem_of_duplicatePhrases (by decide),
    filter_codes_eq_self code_mem_of_duplicateValues,
    filter_codes_eq_nil code_mem_of_loneFindings (by decide), List.map_nil, List.nil_append, List.append_nil,
    duplicateValues, List.map_map]
  rfl

/-- The texts under any other code are those of findings about one text alone. -/
theorem textsOf_lone {code : Code} (h : code ∈ Code.lone) : (standard.report m locale).textsOf [code] =
    ((m.loneFindings locale).filter (·.code ∈ [code])).map (·.text) := by
  have hphrase : ∀ code ∈ Code.lone, ∀ other ∈ [Code.duplicatePhrase], other ∉ [code] := by decide
  have hentity : ∀ code ∈ Code.lone, ∀ other ∈ Code.duplicateEntity, other ∉ [code] := by decide
  rw [textsOf_standard, filter_codes_eq_nil code_mem_of_duplicatePhrases (hphrase code h),
    filter_codes_eq_nil code_mem_of_duplicateValues (hentity code h), List.map_nil, List.nil_append,
    List.nil_append]

/-! ## How many findings -/

theorem count_duplicatePhrase : (standard.report m locale).count .duplicatePhrase =
    (clashes (·.text.key) (·.intent) m.phrases).length := by
  rw [count_report, textsOf_duplicatePhrase, List.length_map]

theorem count_duplicateEntity : (standard.report m locale).count .duplicateEntityValue +
    (standard.report m locale).count .duplicateEntitySynonym =
      (clashes (·.text.key) Slot.owner m.slots).length := by
  have htexts := @textsOf_duplicateEntity m locale
  unfold Code.duplicateEntity at htexts
  rw [count_report_add standard (by decide), htexts, List.length_map]

theorem count_lone {code : Code} (h : code ∈ Code.lone) : (standard.report m locale).count code =
    ((m.loneFindings locale).filter (·.code ∈ [code])).length := by
  rw [count_report, textsOf_lone h, List.length_map]

theorem length_findings_standard : (standard.report m locale).findings.length =
    (clashes (·.text.key) (·.intent) m.phrases).length +
      ((clashes (·.text.key) Slot.owner m.slots).length + (m.loneFindings locale).length) := by
  rw [findings_standard, List.length_append, List.length_append, duplicatePhrases, duplicateValues,
    List.length_map, List.length_map]

theorem passed_standard_iff_findings :
    (standard.report m locale).passed = true ↔ (standard.report m locale).findings.length = 0 := by
  rw [passed_standard_iff, ← @findings_standard_eq_nil_iff m locale, List.length_eq_zero_iff]

end Linter

/-- **The counts of duplicates.** Of the phrases, and of the values and synonyms together, all are counted but
one for each key. -/
structure Report.CountsDuplicates (r : Report) (m : LanguageModel) : Prop where
  phrases : r.count .duplicatePhrase + (m.phraseTexts.map Text.key).eraseDups.length = m.phraseTexts.length
  values : r.count .duplicateEntityValue + r.count .duplicateEntitySynonym +
    (m.valueTexts.map Text.key).eraseDups.length = m.valueTexts.length

theorem Linter.countsDuplicates_standard : (standard.report m locale).CountsDuplicates m where
  phrases := by
    rw [count_duplicatePhrase, ← LanguageModel.map_text_phrases, List.map_map, List.length_map]
    exact length_clashes_add _ _ m.phrases
  values := by
    rw [count_duplicateEntity, ← LanguageModel.map_text_slots, List.map_map, List.length_map]
    exact length_clashes_add _ _ m.slots

end IntentLint
