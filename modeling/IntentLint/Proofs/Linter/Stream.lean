import IntentLint.Proofs.Linter.Chains
import IntentLint.Proofs.Linter.Verdict
import IntentLint.Proofs.Text.OneLine

/-!
# `Proofs.Linter.Stream` — a stream to which findings are written as lines

A stream gets a line for every finding that is delivered. Messages hold texts of the model as they are, and these
may have line feeds in them, as the phrases do that end in one and are reported for it. So the stream, cut up at
its line feeds, has the parts of the lines of the report, and it has the lines themselves exactly when every
message fits on one line (`lint_streamed`).

The messages of the standard checks hold the locale, texts of the model and keys of such texts, and nothing else
that could have a line feed in it (`oneLine_of_mem_findings`).
-/

namespace IntentLint

theorem Finding.oneLine_line {f : Finding} : f.line.OneLine ↔ f.message.OneLine := by
  have hmark : Finding.mark.OneLine := by decide
  unfold line
  rw [Text.oneLine_append, and_iff_right hmark]

/-- A stream has the lines of what was delivered. -/
theorem Run.streamed_eq {α : Type} (r : Run α) :
    r.streamed = (r.delivered.map Finding.line).flatMap Text.line := by
  unfold streamed
  rw [List.flatMap_map]

namespace LanguageModel

/-- The texts of a model: the names of intents and entity types, phrases, values and synonyms. -/
def writtenTexts (m : LanguageModel) : List Text :=
  (m.intents.map (·.1) ++ m.phraseTexts) ++ ((m.entityTypes.getD []).map (·.1) ++ m.valueTexts)

/-! ## Texts that checks go through -/

variable {m : LanguageModel}

theorem writtenTexts_of_mem_phrases {p : Phrase} (h : p ∈ m.phrases) :
    p.intent ∈ m.writtenTexts ∧ p.text ∈ m.writtenTexts := by
  have htext : p.text ∈ m.phraseTexts := m.map_text_phrases ▸ List.mem_map_of_mem h
  have hintent : p.intent ∈ m.intents.map (·.1) := by
    rw [phrases_eq_flatMap] at h
    obtain ⟨entry, hentry, hp⟩ := List.mem_flatMap.mp h
    obtain ⟨t, -, rfl⟩ := List.mem_map.mp hp
    exact List.mem_map_of_mem hentry
  unfold writtenTexts
  exact ⟨List.mem_append_left _ (List.mem_append_left _ hintent),
    List.mem_append_left _ (List.mem_append_right _ htext)⟩

/-- The slots of a value lead to its entity type or to its own text. -/
theorem target_of_mem_slots {entityType : Text} {value : EntityValue} {s : Slot} (h : s ∈ value.slots entityType) :
    s.entityType = entityType ∧ (s.target = entityType ∨ s.target ∈ value.texts) := by
  cases value with
  | bare t =>
    cases List.mem_singleton.mp h
    exact ⟨rfl, Or.inl rfl⟩
  | structured t synonyms =>
    rcases List.mem_cons.mp h with rfl | h
    · exact ⟨rfl, Or.inl rfl⟩
    · obtain ⟨synonym, -, rfl⟩ := List.mem_map.mp h
      exact ⟨rfl, Or.inr List.mem_cons_self⟩

theorem writtenTexts_of_mem_slots {s : Slot} (h : s ∈ m.slots) :
    s.entityType ∈ m.writtenTexts ∧ s.target ∈ m.writtenTexts ∧ s.text ∈ m.writtenTexts := by
  have htext : s.text ∈ m.valueTexts := m.map_text_slots ▸ List.mem_map_of_mem h
  have hvalue : ∀ t ∈ m.valueTexts, t ∈ m.writtenTexts := fun t ht =>
    List.mem_append_right _ (List.mem_append_right _ ht)
  rw [slots_eq_flatMap] at h
  obtain ⟨entry, hentry, h⟩ := List.mem_flatMap.mp h
  obtain ⟨value, hmem, h⟩ := List.mem_flatMap.mp h
  obtain ⟨htype, htarget⟩ := target_of_mem_slots h
  have hname : entry.1 ∈ m.writtenTexts :=
    List.mem_append_right _ (List.mem_append_left _ (List.mem_map_of_mem hentry))
  refine ⟨htype ▸ hname, ?_, hvalue _ htext⟩
  rcases htarget with hentity | hown
  · rw [hentity]
    exact hname
  · exact hvalue _ (List.mem_flatMap.mpr ⟨entry, hentry, List.mem_flatMap.mpr ⟨value, hmem, hown⟩⟩)

end LanguageModel

/-! ## Messages -/

variable {m : LanguageModel} {locale : Text}

theorem oneLine_of_mem_duplicatePhrases (hlocale : locale.OneLine) (h : ∀ t ∈ m.writtenTexts, t.OneLine)
    {f : Finding} (hf : f ∈ duplicatePhrases m locale) : f.message.OneLine := by
  obtain ⟨⟨p, owner⟩, hclash, rfl⟩ := List.mem_map.mp hf
  obtain ⟨hp, earlier, hearlier, howner⟩ := of_mem_clashes hclash
  have hphrase := LanguageModel.writtenTexts_of_mem_phrases hp
  have hother : owner.OneLine := by
    change earlier.intent = owner at howner
    rw [← howner]
    exact h _ (LanguageModel.writtenTexts_of_mem_phrases hearlier).1
  simp only [LanguageModel.Phrase.duplicate, Text.oneLine_append, and_assoc]
  exact ⟨by decide, (h _ hphrase.2).key, by decide, hother, by decide, h _ hphrase.1, by decide, hlocale, by decide⟩

theorem Slot.oneLine_label (kind : SlotKind) : (Slot.label kind).OneLine := by
  cases kind <;> decide

theorem oneLine_of_mem_duplicateValues (hlocale : locale.OneLine) (h : ∀ t ∈ m.writtenTexts, t.OneLine)
    {f : Finding} (hf : f ∈ duplicateValues m locale) : f.message.OneLine := by
  obtain ⟨⟨s, owner⟩, hclash, rfl⟩ := List.mem_map.mp hf
  obtain ⟨hs, earlier, hearlier, howner⟩ := of_mem_clashes hclash
  obtain ⟨htype, -, htext⟩ := LanguageModel.writtenTexts_of_mem_slots hs
  -- the owner of a key is itself a key, that of what an earlier slot leads to
  have hother : owner.OneLine := by
    change earlier.target.key = owner at howner
    rw [← howner]
    exact (h _ (LanguageModel.writtenTexts_of_mem_slots hearlier).2.1).key
  simp only [Slot.duplicate, Text.oneLine_append, and_assoc]
  exact ⟨Slot.oneLine_label s.kind, by decide, (h _ htext).key, by decide, hother, by decide, h _ htype,
    by decide, hlocale, by decide⟩

theorem oneLine_of_mem_outerBlankPhrases (hlocale : locale.OneLine) (h : ∀ t ∈ m.writtenTexts, t.OneLine)
    {f : Finding} (hf : f ∈ outerBlankPhrases m locale) : f.message.OneLine := by
  obtain ⟨p, hp, rfl⟩ := List.mem_map.mp hf
  have hphrase := LanguageModel.writtenTexts_of_mem_phrases (List.mem_of_mem_filter hp)
  simp only [LanguageModel.Phrase.outerBlank, Text.oneLine_append, and_assoc]
  exact ⟨by decide, h _ hphrase.2, by decide, h _ hphrase.1, by decide, hlocale, by decide⟩

theorem oneLine_of_mem_outerBlankValues (hlocale : locale.OneLine) (h : ∀ t ∈ m.writtenTexts, t.OneLine)
    {f : Finding} (hf : f ∈ outerBlankValues m locale) : f.message.OneLine := by
  obtain ⟨s, hs, rfl⟩ := List.mem_map.mp hf
  obtain ⟨htype, -, htext⟩ := LanguageModel.writtenTexts_of_mem_slots (List.mem_of_mem_filter hs)
  simp only [Slot.outerBlank, Text.oneLine_append, and_assoc]
  exact ⟨Slot.oneLine_label s.kind, by decide, h _ htext, by decide, h _ htype, by decide, hlocale, by decide⟩

theorem oneLine_of_mem_bracketFaults (hlocale : locale.OneLine) (h : ∀ t ∈ m.writtenTexts, t.OneLine)
    {f : Finding} (hf : f ∈ bracketFaults m locale) : f.message.OneLine := by
  obtain ⟨p, hp, hfault⟩ := List.mem_filterMap.mp hf
  obtain ⟨fault, -, rfl⟩ := Option.map_eq_some_iff.mp hfault
  have hphrase := LanguageModel.writtenTexts_of_mem_phrases hp
  have hwords : fault.words.OneLine := by cases fault <;> decide
  simp only [LanguageModel.Phrase.bracket, Text.oneLine_append, and_assoc]
  exact ⟨by decide, hwords, by decide, h _ hphrase.2, by decide, h _ hphrase.1, by decide, hlocale, by decide⟩

namespace Linter

/-- **The messages of the standard checks fit on one line if the locale and the texts of the model do.** -/
theorem oneLine_of_mem_findings (hlocale : locale.OneLine) (h : ∀ t ∈ m.writtenTexts, t.OneLine) {f : Finding}
    (hf : f ∈ (standard.report m locale).findings) : f.message.OneLine := by
  have hfindings : (standard.report m locale).findings = (tally m locale Check.standard).findings := rfl
  rw [hfindings, tally_standard] at hf
  simp only [List.mem_append] at hf
  rcases hf with hf | hf | hf | hf | hf
  · exact oneLine_of_mem_duplicatePhrases hlocale h hf
  · exact oneLine_of_mem_duplicateValues hlocale h hf
  · exact oneLine_of_mem_outerBlankPhrases hlocale h hf
  · exact oneLine_of_mem_outerBlankValues hlocale h hf
  · exact oneLine_of_mem_bracketFaults hlocale h hf

/-! ## Streams -/

/-- **What a stream says about the report.** A run over a source that reads as a model, with a stream for its
findings, comes to a report. Cut up at its line feeds, the stream has the parts of the lines of the report and an
empty one behind them. These are the lines themselves exactly when every message fits on one line, and that is so
for the standard checks when the locale and the texts of the model do. -/
theorem lint_streamed {source : Source} (hread : source.read locale = .ok m) (linter : Linter)
    (held : List Finding) :
    ∃ r, (linter.lint (some Sink.accepting) held source locale).outcome = .ok r ∧
      let parts := Text.splitAt '\n' (linter.lint (some Sink.accepting) held source locale).streamed
      parts = r.lines.flatMap (Text.splitAt '\n') ++ [[]] ∧
      (parts = r.lines ++ [[]] ↔ ∀ f ∈ r.findings, f.message.OneLine) ∧
      (linter = standard → locale.OneLine → (∀ t ∈ m.writtenTexts, t.OneLine) → parts = r.lines ++ [[]]) := by
  have houtcome : (linter.lintModel (some Sink.accepting) held m locale).outcome = .ok (linter.report m locale) :=
    outcome_lintModel Sink.willing_accepting linter held
  have hstream : (linter.lintModel (some Sink.accepting) held m locale).streamed =
      (linter.report m locale).lines.flatMap Text.line := by
    rw [Run.streamed_eq, delivered_lintModel houtcome]
    rfl
  have hlines : (∀ t ∈ (linter.report m locale).lines, t.OneLine) ↔
      ∀ f ∈ (linter.report m locale).findings, f.message.OneLine := by
    unfold Report.lines
    simp only [List.forall_mem_map, Finding.oneLine_line]
  have hexact := Text.splitAt_lines_eq_iff.trans hlines
  rw [lint_of_read hread]
  refine ⟨_, houtcome, ?_⟩
  rw [hstream]
  refine ⟨Text.splitAt_lines _, hexact, ?_⟩
  rintro rfl hlocale htexts
  exact hexact.mpr fun f hf => oneLine_of_mem_findings hlocale htexts hf

/-- A phrase with a blank at its start has one line in the report and one in the stream. -/
theorem lint_streamed_blankPhrase :
    (Source.model blankPhrase).read "en" = .ok blankPhrase ∧
      ∃ r, (standard.lint (some Sink.accepting) [] (.model blankPhrase) "en").outcome = .ok r ∧
        r.lines.length = 1 ∧
        Text.splitAt '\n' (standard.lint (some Sink.accepting) [] (.model blankPhrase) "en").streamed =
          r.lines ++ [[]] := by
  have hread : (Source.model blankPhrase).read "en" = .ok blankPhrase := rfl
  obtain ⟨r, hr, -, -, hparts⟩ := lint_streamed hread standard []
  have hreport : r = standard.report blankPhrase "en" := by
    rw [lint_of_read hread] at hr
    exact lintModel_eq_ok hr
  refine ⟨hread, r, hr, ?_, hparts rfl (by decide) (by decide)⟩
  rw [hreport]
  decide +kernel

/-- A document of a model with one phrase, which ends in a line feed. -/
def endedPhrase : Json :=
  .object [("intents", .object [("A", .object [("phrases", .array [.text "hello\n"])])])]

/-- **A phrase that ends in a line feed breaks the line that reports it.** The report has one line, and a stream
cut up at its line feeds has two parts of it. -/
theorem lint_streamed_endedPhrase :
    ∃ r, (standard.lint (some Sink.accepting) [] (.document endedPhrase) "en").outcome = .ok r ∧
      r.lines = [Text.ofString
        "🔺 Warning: phrase 'hello\n' has superfluous whitespace in intent 'A' in 'en' model. "] ∧
      Text.splitAt '\n' (standard.lint (some Sink.accepting) [] (.document endedPhrase) "en").streamed =
        [Text.ofString "🔺 Warning: phrase 'hello",
          Text.ofString "' has superfluous whitespace in intent 'A' in 'en' model. ", []] ∧
      Text.splitAt '\n' (standard.lint (some Sink.accepting) [] (.document endedPhrase) "en").streamed ≠
        r.lines ++ [[]] := by
  have hparts : Text.splitAt '\n' (standard.lint (some Sink.accepting) [] (.document endedPhrase) "en").streamed =
      [Text.ofString "🔺 Warning: phrase 'hello",
        Text.ofString "' has superfluous whitespace in intent 'A' in 'en' model. ", []] := by decide +kernel
  have hlines : (standard.report ⟨[("A", ⟨some ["hello\n"]⟩)], none⟩ "en").lines = [Text.ofString
      "🔺 Warning: phrase 'hello\n' has superfluous whitespace in intent 'A' in 'en' model. "] := by
    decide +kernel
  refine ⟨_, by decide +kernel, hlines, hparts, ?_⟩
  -- three parts are not the one line and an empty one
  rw [hparts, hlines]
  exact fun h => absurd (congrArg List.length h) (by decide)

end Linter
end IntentLint
