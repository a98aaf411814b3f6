import IntentLint.Proofs.Batch.Loading

/-!
# `Proofs.Batch.Isolation` — locales do not feel each other

What a batch has to say about a locale it reads off one file, and off nothing else (`reportOf_congr`). So two
batches with the same linter that look for a locale in the same place, and find the same there, report the
same about it. The other locales on their lists, how often and in what order they stand there, the files of
those and what became of them play no part.

The reports of a batch stand in the order in which its list first has their locales.
-/

namespace IntentLint
namespace Batch

variable {batch batch' : Batch} {locale : Text}

/-- The text of a model file depends on the file alone. -/
theorem textOf_congr (hdir : batch.modelsDir = batch'.modelsDir)
    (hread : batch.read (batch.pathOf locale) = batch'.read (batch'.pathOf locale)) :
    batch.textOf locale = batch'.textOf locale := by
  have hpath : batch.pathOf locale = batch'.pathOf locale := by
    unfold pathOf
    rw [hdir]
  have htext : batch.read.text (batch.pathOf locale) = batch'.read.text (batch'.pathOf locale) := by
    unfold Reader.text
    rw [hread]
  unfold textOf
  rw [htext, hpath]

/-- **The report of a locale depends on its model file alone.** -/
theorem reportOf_congr (hlinter : batch.linter = batch'.linter) (hdir : batch.modelsDir = batch'.modelsDir)
    (hread : batch.read (batch.pathOf locale) = batch'.read (batch'.pathOf locale)) :
    batch.reportOf locale = batch'.reportOf locale := by
  have hmodel : batch.modelOf locale = batch'.modelOf locale := by
    have hpath : batch.pathOf locale = batch'.pathOf locale := by
      unfold pathOf
      rw [hdir]
    rw [modelOf_eq, modelOf_eq, textOf_congr hdir hread, hpath]
  unfold reportOf
  rw [hmodel, hlinter]

/-- The reports of a batch stand in the order in which its list first has their locales. -/
theorem keys_of_lintAll (hs : Sink.Willing batch.sink?) {locales : List Text}
    {reports : Entries Text Report} (h : (batch.lintAll locales).outcome = .ok reports) :
    Entries.keys reports = locales.eraseDups := by
  obtain ⟨pairs, hpairs, rfl⟩ := lintAll_eq_ok h
  obtain ⟨hkeys, -⟩ := (lintEach_eq_ok_iff hs).mp hpairs
  rw [Entries.keys_ofList, hkeys]

/-- **Locales do not feel each other.** Two batches with one linter, in one directory and with willing sinks,
have returned; they may differ in their surroundings, their files, and the locales on their lists. A locale on
both lists that has the same file in both has the same report in both. The reports of a batch have the
locales of its list as keys, each once, in the order in which the list first has them. -/
theorem lintIn_isolated {around around' : Surroundings} {settings settings' : Settings}
    {read read' : Reader} {linter : Linter} {sink? sink'? : Option Sink} {scope scope' : Scope}
    {reports reports' : Entries Text Report} (hload : Settings.load around = .ok settings)
    (hload' : Settings.load around' = .ok settings') (hs : Sink.Willing sink?) (hs' : Sink.Willing sink'?)
    (h : (lintIn around read linter sink? scope).outcome = .ok reports)
    (h' : (lintIn around' read' linter sink'? scope').outcome = .ok reports')
    (hdir : scope.modelsDirUnder settings = scope'.modelsDirUnder settings') :
    (∀ locale ∈ scope.localesUnder settings, locale ∈ scope'.localesUnder settings' →
      read (Path.ofModel (scope.modelsDirUnder settings) locale).text =
        read' (Path.ofModel (scope'.modelsDirUnder settings') locale).text →
      ∃ r, Entries.get? locale reports = some r ∧ Entries.get? locale reports' = some r) ∧
    Entries.keys reports = (scope.localesUnder settings).eraseDups ∧
    Entries.keys reports' = (scope'.localesUnder settings').eraseDups := by
  rw [outcome_lintIn hload] at h
  rw [outcome_lintIn hload'] at h'
  refine ⟨fun locale hl hl' hfile => ?_, keys_of_lintAll hs h, keys_of_lintAll hs' h'⟩
  obtain ⟨r, hget, hr⟩ := get?_of_lintAll hs h hl
  obtain ⟨r', hget', hr'⟩ := get?_of_lintAll hs' h' hl'
  have hsame : (ofScope read linter sink? scope settings).reportOf locale =
      (ofScope read' linter sink'? scope' settings').reportOf locale := reportOf_congr rfl hdir hfile
  rw [hsame, hr'] at hr
  cases hr
  exact ⟨r, hget, hget'⟩

/-! ## A locale among others -/

/-- A locale whose file is not there has a report all the same. -/
theorem exists_reportOf_of_missing (husable : Path.Usable (batch.pathOf locale))
    (hread : batch.read (batch.pathOf locale) = .error .notFound) : ∃ r, batch.reportOf locale = .ok r := by
  have htext : batch.read.text (batch.pathOf locale) = .error (.unopened .notFound) := by
    unfold Reader.text
    rw [hread]
  have hmodel : batch.modelOf locale =
      .error (.lint ⟨locale, .unreadableFile (batch.pathOf locale) (.unopened .notFound)⟩) := by
    rw [modelOf_eq]
    unfold textOf
    rw [PathFault.ofText?_eq_none_iff.mpr husable, htext]
    rfl
  exact ⟨_, reportOf_of_lintError hmodel⟩

theorem usable_german : Path.Usable (Path.ofModel Settings.default.modelsDir "de").text :=
  PathFault.ofText?_eq_none_iff.mp (by decide)

/-- Files of which one holds a small model; the others are not there. -/
def englishOnly : Reader := fun path =>
  if path = (Path.ofModel Settings.default.modelsDir "en").text then .ok (Utf8.encode plainModel)
  else .error .notFound

theorem englishOnly_english :
    englishOnly (Path.ofModel Settings.default.modelsDir "en").text = .ok (Utf8.encode plainModel) := by
  unfold englishOnly
  exact if_pos rfl

theorem englishOnly_german :
    englishOnly (Path.ofModel Settings.default.modelsDir "de").text = .error .notFound := by
  unfold englishOnly
  exact if_neg (by decide)

/-- In one run a locale stands in front of another whose file is missing, in the other run twice behind one
whose file is there. Its report is the same. -/
theorem lintIn_isolated_from_missing_file :
    Settings.load ⟨[], none⟩ = .ok Settings.default ∧ Sink.Willing none ∧
      ∃ reports reports' r,
        (lintIn ⟨[], none⟩ englishOnly Linter.standard none ⟨some ["en", "de"], none⟩).outcome =
          .ok reports ∧
        (lintIn ⟨[], none⟩ (fun _ => .ok (Utf8.encode plainModel)) Linter.standard none
          ⟨some ["de", "en", "en"], none⟩).outcome = .ok reports' ∧
        Entries.get? ("en" : Text) reports = some r ∧ Entries.get? ("en" : Text) reports' = some r ∧
        Entries.keys reports = [("en" : Text), ("de" : Text)] ∧
        Entries.keys reports' = [("de" : Text), ("en" : Text)] := by
  have hload : Settings.load ⟨[], none⟩ = .ok Settings.default := rfl
  obtain ⟨reports, h⟩ : ∃ reports, (lintIn ⟨[], none⟩ englishOnly Linter.standard none
      ⟨some ["en", "de"], none⟩).outcome = .ok reports := by
    rw [outcome_lintIn hload, lintAll_eq_ok_iff Sink.willing_none]
    intro locale hl
    rcases List.mem_cons.mp hl with rfl | hl
    · exact ⟨_, reportOf_of_model (modelOf_plainModel usable_default englishOnly_english)⟩
    · rw [List.mem_singleton.mp hl]
      exact exists_reportOf_of_missing usable_german englishOnly_german
  obtain ⟨reports', h'⟩ : ∃ reports', (lintIn ⟨[], none⟩ (fun _ => .ok (Utf8.encode plainModel))
      Linter.standard none ⟨some ["de", "en", "en"], none⟩).outcome = .ok reports' := by
    rw [outcome_lintIn hload, lintAll_eq_ok_iff Sink.willing_none]
    intro locale hl
    rcases List.mem_cons.mp hl with rfl | hl
    · exact ⟨_, reportOf_of_model (modelOf_plainModel usable_german rfl)⟩
    · have hen : locale = ("en" : Text) := (List.mem_cons.mp hl).elim id List.mem_singleton.mp
      rw [hen]
      exact ⟨_, reportOf_of_model (modelOf_plainModel usable_default rfl)⟩
  obtain ⟨hsame, hkeys, hkeys'⟩ :=
    lintIn_isolated hload hload Sink.willing_none Sink.willing_none h h' rfl
  obtain ⟨r, hr, hr'⟩ := hsame ("en" : Text) List.mem_cons_self
    (List.mem_cons_of_mem _ List.mem_cons_self) englishOnly_english
  refine ⟨hload, Sink.willing_none, reports, reports', r, h, h', hr, hr', ?_, ?_⟩
  · rw [hkeys]
    decide
  · rw [hkeys']
    decide

end Batch
end IntentLint
