import IntentLint.Proofs.Batch.Loading
import IntentLint.Proofs.Batch.Visits
import IntentLint.Proofs.Report

/-!
# `Proofs.Batch.Coherence` — reports that agree with themselves

A report is made in one of two ways: from what a chain of checks comes to, or from the lint error of a locale.
Either way it is coherent (`Linter.coherent_of_lint`, `coherent_of_mem_visits`). In the second case the locale
was passed over: there was no model for a check to run on, and nothing was delivered (`Batch.PassedOver`).

So the reports of a batch are coherent, and behind a report with an error stand visits that passed its locale
over (`coherent_lintIn`). The sink may refuse findings, which ends the run; it may not pass a refusal off as a
lint error, for that would be the error of a locale whose checks ran.
-/

namespace IntentLint

/-- The report of a model is coherent, whatever the checks find in it or break down on. -/
theorem Linter.coherent_report (linter : Linter) (m : LanguageModel) (locale : Text) :
    (linter.report m locale).Coherent := Report.coherent_build locale _ _

/-- A linter that comes to a report comes to a coherent one. -/
theorem Linter.coherent_of_lint {linter : Linter} {sink? : Option Sink} {held : List Finding} {source : Source}
    {locale : Text} {r : Report} (h : (linter.lint sink? held source locale).outcome = .ok r) : r.Coherent := by
  unfold lint at h
  obtain ⟨m, -, hlint⟩ := Run.outcome_bind_eq_ok.mp h
  rw [lintModel_eq_ok hlint]
  exact coherent_report linter m locale

namespace Batch

/-- A visit that passed its locale over, for a reason. No check ran in it, on whatever model. -/
structure PassedOver (batch : Batch) (locale : Text) (visit : Run Report) (message : Text) : Prop where
  /-- There was no model for a check to run on. -/
  unread : ∃ error, batch.modelOf locale = .error (.lint error) ∧ error.message = message
  delivered : visit.delivered = []
  logged : visit.logged = [.lintFailed locale message]
  /-- The visit would have been the same with other checks, and with other findings delivered before it. -/
  unchecked : ∀ checks held, { batch with linter := ⟨checks⟩ }.lintLocale held locale = visit

variable {batch : Batch} {held : List Finding} {locale : Text} {locales : List Text}

/-- A locale with a lint error is passed over. -/
theorem passedOver_of_lintError {error : LintError} (h : batch.modelOf locale = .error (.lint error))
    (held : List Finding) : batch.PassedOver locale (batch.lintLocale held locale) error.message := by
  rw [lintLocale_of_lintError h]
  refine ⟨⟨error, h, rfl⟩, rfl, rfl, fun checks held' => ?_⟩
  -- the model is read before any check is looked at
  have hother : { batch with linter := ⟨checks⟩ }.modelOf locale = .error (.lint error) := h
  exact lintLocale_of_lintError hother held'

/-- **A visit that comes to a report comes to a coherent one**, and a report with an error means that the locale
was passed over. -/
theorem coherent_of_mem_visits (hs : Sink.NoLintError batch.sink?) {v : Text × Run Report} {r : Report}
    (hv : v ∈ batch.visits held locales) (h : v.2.outcome = .ok r) :
    r.Coherent ∧ ∀ message, r.error = some message → batch.PassedOver v.1 v.2 message := by
  obtain ⟨held', hrun⟩ := exists_held_of_mem_visits hv
  rw [hrun] at h ⊢
  rcases lintLocale_cases hs h with ⟨m, -, rfl, -⟩ | ⟨error, herror, rfl, -⟩
  · refine ⟨Linter.coherent_report _ m _, fun message hmessage => ?_⟩
    cases hmessage
  · refine ⟨Report.coherent_failed _ error.message_ne_nil, fun message hmessage => ?_⟩
    cases hmessage
    exact passedOver_of_lintError herror held'

/-- **All reports are coherent.** Those that a linter comes to are, with any checks over any source. So are those
that the visits of a batch come to; a batch delivers nothing but what its visits deliver, and a visit whose report
has an error passed its locale over. The reports that a batch keeps are those of its visits. -/
theorem coherent_lintIn :
    (∀ (linter : Linter) (sink? : Option Sink) (held : List Finding) (source : Source) (locale : Text)
        (r : Report), (linter.lint sink? held source locale).outcome = .ok r → r.Coherent) ∧
    ∀ (around : Surroundings) (settings : Settings) (read : Reader) (linter : Linter) (sink? : Option Sink)
        (scope : Scope), Settings.load around = .ok settings → Sink.NoLintError sink? →
      let run := lintIn around read linter sink? scope
      let batch := ofScope read linter sink? scope settings
      let visits := batch.visits [] (scope.localesUnder settings)
      run.delivered = visits.flatMap (·.2.delivered) ∧
      (∀ v ∈ visits, ∀ r, v.2.outcome = .ok r →
        r.Coherent ∧ ∀ message, r.error = some message → batch.PassedOver v.1 v.2 message) ∧
      ∀ reports, run.outcome = .ok reports → ∀ e ∈ reports,
        e.2.Coherent ∧ (∃ v ∈ visits, v.1 = e.1) ∧ ∀ v ∈ visits, v.1 = e.1 → v.2.outcome = .ok e.2 := by
  refine ⟨fun _ _ _ _ _ _ h => Linter.coherent_of_lint h, ?_⟩
  intro around settings read linter sink? scope hload hs run batch visits
  have hvisits : ∀ v ∈ visits, ∀ r, v.2.outcome = .ok r →
      r.Coherent ∧ ∀ message, r.error = some message → batch.PassedOver v.1 v.2 message :=
    fun v hv r h => coherent_of_mem_visits hs hv h
  refine ⟨?_, hvisits, ?_⟩
  · rw [delivered_lintIn hload]
    exact delivered_lintAll_eq_visits batch _
  · intro reports hreports e he
    rw [outcome_lintIn hload] at hreports
    obtain ⟨hlocales, hkeys, hkept⟩ := visits_of_lintAll hs hreports
    -- the entry is what is looked up under its locale, since every locale has one report
    have hget : Entries.get? e.1 reports = some e.2 :=
      Entries.get?_of_mem (hkeys ▸ Entries.nodup_eraseDups _) he
    have hsame : ∀ v ∈ visits, v.1 = e.1 → v.2.outcome = .ok e.2 := by
      intro v hv hlocale
      obtain ⟨r, hr, hrget⟩ := hkept v hv
      rw [hlocale, hget] at hrget
      rw [hr, Option.some.inj hrget]
    have hlisted : e.1 ∈ scope.localesUnder settings := by
      rw [← List.mem_eraseDups, ← hkeys]
      exact List.mem_map_of_mem he
    obtain ⟨v, hv, hlocale⟩ := List.mem_map.mp (hlocales ▸ hlisted)
    exact ⟨(hvisits v hv e.2 (hsame v hv hlocale)).1, ⟨v, hv, hlocale⟩, hsame⟩

/-- Of two locales, one has a finding and the other was passed over, since its file is missing. -/
theorem coherent_lintIn_blankEnglish :
    Settings.load ⟨[], none⟩ = .ok Settings.default ∧ Sink.NoLintError (some Sink.accepting) ∧
      ∃ english german message visit,
        (lintIn ⟨[], none⟩ blankEnglish Linter.standard (some Sink.accepting)
          ⟨some ["en", "de"], none⟩).outcome = .ok [("en", english), ("de", german)] ∧
        english.findings.length = 1 ∧ Report.sumOfCounts english.summary = 1 ∧
        german.error = some message ∧
        (ofScope blankEnglish Linter.standard (some Sink.accepting) ⟨some ["en", "de"], none⟩
          Settings.default).PassedOver "de" visit message := by
  have hload : Settings.load ⟨[], none⟩ = .ok Settings.default := rfl
  have hs : Sink.NoLintError (some Sink.accepting) := Sink.willing_accepting.noLintError
  have hone : (Linter.standard.report ⟨[("A", ⟨some [" x"]⟩)], none⟩ "en").findings.length = 1 := by
    decide +kernel
  have hreports : (lintIn ⟨[], none⟩ blankEnglish Linter.standard (some Sink.accepting)
      ⟨some ["en", "de"], none⟩).outcome =
      .ok [("en", Linter.standard.report ⟨[("A", ⟨some [" x"]⟩)], none⟩ "en"),
        ("de", Report.failed "de"
          (some (LintError.message ⟨"de", .unreadableFile "models/de.json" (.unopened .notFound)⟩)))] := by
    decide +kernel
  obtain ⟨-, hvisits, hkept⟩ := coherent_lintIn.2 ⟨[], none⟩ Settings.default blankEnglish Linter.standard
    (some Sink.accepting) ⟨some ["en", "de"], none⟩ hload hs
  obtain ⟨henglish, -⟩ := hkept _ hreports _ List.mem_cons_self
  obtain ⟨-, ⟨v, hv, hlocale⟩, hsame⟩ := hkept _ hreports _ (List.mem_cons_of_mem _ List.mem_cons_self)
  have hpassed := (hvisits v hv _ (hsame v hv hlocale)).2 _ rfl
  rw [hlocale] at hpassed
  exact ⟨hload, hs, _, _, _, v.2, hreports, hone, henglish.total.trans hone, rfl, hpassed⟩

end Batch
end IntentLint
