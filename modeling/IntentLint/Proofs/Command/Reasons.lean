import IntentLint.Proofs.Command.Formats
import IntentLint.Proofs.Linter.Verdict

/-!
# `Proofs.Command.Reasons` — what each exit code stands for

The exit code of a run is worked out from its reports. What the reports come to depends on the model files alone,
so the exit code can be read off them: a file that cannot be linted (`Unlintable`) decides first, then in strict
runs a model in which one of the standard checks finds something (`Unclean`), and else all is well
(`run_exitCode`).

Neither the format nor the order or repetition of locales comes into it. A run completes exactly when every name
on its list is that of a locale with a report (`lint_eq_ok_iff`), so two runs over the same locales complete
together, and with the same code.
-/

namespace IntentLint

/-! ## Model files -/

/-- No report comes of linting the model file of a locale, because of a lint error: there is no document in it, or
what it holds is not a model. -/
def Unlintable (read : Reader) (dir locale : Text) : Prop :=
  ∃ error, loadModel read dir locale = .error (.lint error) ∨
    ∃ v, loadModel read dir locale = .ok v ∧
      (Linter.standard.lint none [] (Source.ofJson v) locale).outcome = .error (.lint error)

/-- The model in the file of a locale is not clean: it fails one of the standard checks. -/
def Unclean (read : Reader) (dir locale : Text) : Prop :=
  ∃ v m, loadModel read dir locale = .ok v ∧ (Source.ofJson v).read locale = .ok m ∧ ¬ m.Clean

/-- A source that does not read as a model is not linted, and any other comes to a report. -/
theorem Linter.lint_eq_lintError_iff {linter : Linter} {source : Source} {locale : Text} {error : LintError} :
    (linter.lint none [] source locale).outcome = .error (.lint error) ↔
      source.read locale = .error (.lint error) := by
  unfold lint
  rw [Run.outcome_bind, Run.outcome_ofExcept]
  cases hread : source.read locale with
  | ok m => simp [Except.bind, outcome_lintModel Sink.willing_none]
  | error failure => simp [Except.bind]

namespace Batch

variable {batch : Batch} {locale : Text}

theorem unlintable_iff : Unlintable batch.read batch.modelsDir locale ↔
    ∃ error, batch.modelOf locale = .error (.lint error) := by
  unfold Unlintable modelOf
  simp only [Linter.lint_eq_lintError_iff]
  cases loadModel batch.read batch.modelsDir locale with
  | ok v => simp [Except.bind, bind]
  | error failure => simp [Except.bind, bind]

theorem unclean_iff : Unclean batch.read batch.modelsDir locale ↔
    ∃ m, batch.modelOf locale = .ok m ∧ ¬ m.Clean := by
  unfold Unclean modelOf
  cases loadModel batch.read batch.modelsDir locale with
  | ok v => simp [Except.bind, bind]
  | error failure => simp [Except.bind, bind]

/-- A report has an error exactly when the model file cannot be linted. -/
theorem hasError_iff_unlintable {r : Report} (h : batch.reportOf locale = .ok r) :
    r.hasError = true ↔ Unlintable batch.read batch.modelsDir locale := by
  rw [unlintable_iff, hasError_eq_isSome h]
  rcases reportOf_eq_ok h with ⟨m, hm, rfl⟩ | ⟨error, herror, rfl⟩
  · rw [hm]
    simp [Linter.report, Report.build]
  · rw [herror]
    simp [Report.failed]

/-- A report of the standard linter has findings exactly when the model is not clean. -/
theorem findings_ne_nil_iff_unclean (hlinter : batch.linter = Linter.standard) {r : Report}
    (h : batch.reportOf locale = .ok r) :
    r.findings ≠ [] ↔ Unclean batch.read batch.modelsDir locale := by
  rw [unclean_iff]
  rcases reportOf_eq_ok h with ⟨m, hm, rfl⟩ | ⟨error, herror, rfl⟩
  · rw [hm, hlinter, Ne, Linter.findings_standard_eq_nil_iff]
    simp
  · rw [herror]
    simp [Report.failed]

end Batch

namespace Command

/-! ## Runs -/

variable {linter : Linter} {read : Reader} {around : Surroundings} {time : Text} {argv : List Text}
  {options : Options} {settings : Settings} {reports : Entries Text Report}

/-- **What options ask for can be linted exactly when every name on the list is that of a locale with a report.** -/
theorem lint_eq_ok_iff :
    (∃ reports, (lint linter read options settings).outcome = .ok reports) ↔
      ∀ name ∈ options.namesUnder settings, ∃ locale dir r, name = some locale ∧
        options.dirUnder settings = some dir ∧
        (Batch.mk read dir linter (sink? options.format)).reportOf locale = .ok r := by
  unfold lint
  cases hscope : options.scope? with
  | some scope =>
    have hs : Sink.Willing (Batch.ofScope read linter (sink? options.format) scope settings).sink? :=
      willing_sink? options.format
    rw [options.namesUnder_of_scope? hscope settings, options.dirUnder_of_scope? hscope settings]
    refine (Batch.lintAll_eq_ok_iff hs).trans ?_
    constructor
    · intro h name hname
      obtain ⟨locale, hl, rfl⟩ := List.mem_map.mp hname
      obtain ⟨r, hr⟩ := h locale hl
      exact ⟨locale, _, r, rfl, rfl, hr⟩
    · intro h locale hl
      obtain ⟨_, _, r, hlocale, hdir, hr⟩ := h (some locale) (List.mem_map_of_mem hl)
      cases hlocale
      cases hdir
      exact ⟨r, hr⟩
  | none =>
    -- where a name is missing, only a run over no locales at all completes
    constructor
    · rintro ⟨reports, h⟩ name hname
      rw [(delivered_of_lintUnnamed h).1] at hname
      cases hname
    · intro h
      have hdir : options.dirUnder settings = none := by
        refine (options.missing_of_scope?_eq_none hscope settings).resolve_right fun hnone => ?_
        obtain ⟨locale, _, _, hlocale, -⟩ := h none hnone
        cases hlocale
      have hnames : options.namesUnder settings = [] := by
        refine List.eq_nil_iff_forall_not_mem.mpr fun name hname => ?_
        obtain ⟨_, dir, _, -, hsome, -⟩ := h name hname
        rw [hdir] at hsome
        cases hsome
      refine ⟨[], ?_⟩
      show (lintUnnamed read linter (sink? options.format) options settings).outcome = .ok []
      unfold lintUnnamed
      simp only [hdir, hnames]
      rfl

/-- What can be told of a report by the model file of its locale can be told of the reports of a run by the files
of the locales listed. -/
theorem exists_report_iff (h : Reports linter read around options settings reports) {listed : List Text}
    (hkeys : Entries.keys reports = listed.eraseDups) (asked : Report → Prop) (fact : Text → Text → Prop)
    (hfact : ∀ dir locale r, (Batch.mk read dir linter (sink? options.format)).reportOf locale = .ok r →
      (asked r ↔ fact dir locale)) :
    (∃ e ∈ reports, asked e.2) ↔ ∃ dir ∈ options.dirUnder settings, ∃ locale ∈ listed, fact dir locale := by
  have hlisted : ∀ locale, locale ∈ listed ↔ ∃ e ∈ reports, e.1 = locale := by
    intro locale
    rw [← List.mem_eraseDups, ← hkeys]
    exact List.mem_map
  constructor
  · rintro ⟨e, he, hasked⟩
    obtain ⟨dir, hdir, hreport⟩ := reportOf_of_reports h he
    exact ⟨dir, hdir, e.1, (hlisted e.1).mpr ⟨e, he, rfl⟩, (hfact dir e.1 e.2 hreport).mp hasked⟩
  · rintro ⟨dir, hdir, locale, hl, hholds⟩
    obtain ⟨e, he, rfl⟩ := (hlisted locale).mp hl
    obtain ⟨dir', hdir', hreport⟩ := reportOf_of_reports h he
    rw [Option.some.inj (hdir'.symm.trans hdir)] at hreport
    exact ⟨e, he, (hfact dir e.1 e.2 hreport).mpr hholds⟩

/-- The exit code of the reports of a run, by the model files of the locales listed. -/
theorem exitReasons_of_reports {listed : List Text}
    (h : Reports Linter.standard read around options settings reports)
    (hkeys : Entries.keys reports = listed.eraseDups) :
    ExitReasons options.strict
      (∃ dir ∈ options.dirUnder settings, ∃ locale ∈ listed, Unlintable read dir locale)
      (∃ dir ∈ options.dirUnder settings, ∃ locale ∈ listed, Unclean read dir locale)
      (exitCode options.strict reports) := by
  have herror : ∀ dir locale r, (Batch.mk read dir Linter.standard (sink? options.format)).reportOf locale = .ok r →
      (r.hasError = true ↔ Unlintable read dir locale) := by
    intro dir locale r hr
    have hiff := Batch.hasError_iff_unlintable hr
    exact hiff
  have hfound : ∀ dir locale r, (Batch.mk read dir Linter.standard (sink? options.format)).reportOf locale = .ok r →
      (r.findings ≠ [] ↔ Unclean read dir locale) := by
    intro dir locale r hr
    have hiff := Batch.findings_ne_nil_iff_unclean rfl hr
    exact hiff
  rw [← exists_report_iff h hkeys (fun r => r.hasError = true) (Unlintable read) herror,
    ← exists_report_iff h hkeys (fun r => r.findings ≠ []) (Unclean read) hfound]
  exact exitReasons_exitCode options.strict reports

/-- Two command lines under settings ask for the same locales in the same directory, in whatever order, however
often and in whatever format, and are equally strict. -/
structure SameLocales (options : Options) (settings : Settings) (options' : Options) (settings' : Settings) :
    Prop where
  strict : options'.strict = options.strict
  dir : options'.dirUnder settings' = options.dirUnder settings
  names : ∀ name, name ∈ options'.namesUnder settings' ↔ name ∈ options.namesUnder settings

/-- **What the exit code of a run stands for.** A run of the standard checks that completes has a list of locales.
Its exit code is two when one of them cannot be linted, whatever else was found; otherwise it is one when the run
is strict and the model of one of them fails a check; otherwise zero. Every other run over the same locales
completes as well and has the same code. As everywhere about `Output`, standard output is taken to accept
every text; a stream that refuses a lone surrogate in a report ends the run before it has a code. -/
theorem run_exitCode {code : ExitCode} (hparse : Options.parse argv = .ok options)
    (hcode : (run Linter.standard read around time argv).outcome = .ok code) :
    ∃ settings, ∃ listed : List Text, Settings.load around = .ok settings ∧
      options.namesUnder settings = listed.map some ∧
      ExitReasons options.strict
        (∃ dir ∈ options.dirUnder settings, ∃ locale ∈ listed, Unlintable read dir locale)
        (∃ dir ∈ options.dirUnder settings, ∃ locale ∈ listed, Unclean read dir locale) code ∧
      ∀ (around' : Surroundings) (settings' : Settings) (time' : Text) (argv' : List Text) (options' : Options),
        Settings.load around' = .ok settings' →
        (∃ threshold, Level.ofName settings'.logLevel = .ok threshold) →
        Options.parse argv' = .ok options' → SameLocales options settings options' settings' →
        (run Linter.standard read around' time' argv').outcome = .ok code := by
  obtain ⟨settings, reports, hreports, rfl⟩ := (outcome_run_eq_ok_iff hparse).mp hcode
  obtain ⟨listed, hlisted, hkeys⟩ := keys_of_reports hreports
  have hreasons := exitReasons_of_reports hreports hkeys
  refine ⟨settings, listed, hreports.1, hlisted, hreasons, ?_⟩
  intro around' settings' time' argv' options' hload' hlevel' hparse' hsame
  -- every locale has a report, and that is all that the other run needs to complete
  have hall := lint_eq_ok_iff.mp ⟨reports, hreports.2.2⟩
  obtain ⟨reports', hlint'⟩ : ∃ reports', (lint Linter.standard read options' settings').outcome = .ok reports' := by
    refine lint_eq_ok_iff.mpr fun name hname => ?_
    obtain ⟨locale, dir, r, hlocale, hdir, hr⟩ := hall name ((hsame.names name).mp hname)
    exact ⟨locale, dir, r, hlocale, hsame.dir.trans hdir, hr⟩
  have hreports' : Reports Linter.standard read around' options' settings' reports' := ⟨hload', hlevel', hlint'⟩
  obtain ⟨listed', hlisted', hkeys'⟩ := keys_of_reports hreports'
  have hreasons' := exitReasons_of_reports hreports' hkeys'
  have hmem : ∀ locale, locale ∈ listed' ↔ locale ∈ listed := by
    intro locale
    have hname := hsame.names (some locale)
    rw [hlisted, hlisted'] at hname
    simpa using hname
  simp only [hsame.strict, hsame.dir, hmem] at hreasons'
  refine (outcome_run_eq_ok_iff hparse').mpr ⟨settings', reports', hreports', ?_⟩
  rw [hsame.strict]
  exact hreasons'.unique hreasons

/-- A strict command line for two locales. -/
def pair : List Text := ["--strict", "--locale", "en", "--locale", "de"]

/-- What it asks for. -/
def pairOptions : Options := { Options.default with strict := true, locales := some [some "en", some "de"] }

/-- A strict command line for the same locales in another order, one of them twice, in JSON format. -/
def triple : List Text := ["--format", "json", "--locale", "de", "--locale", "en", "--strict", "--locale", "de"]

/-- What it asks for. -/
def tripleOptions : Options :=
  { pairOptions with format := .json, locales := some [some "de", some "en", some "de"] }

theorem sameLocales_pair : SameLocales pairOptions Settings.default tripleOptions Settings.default := by
  refine ⟨rfl, rfl, fun name => ?_⟩
  show name ∈ [some ("de" : Text), some "en", some "de"] ↔ name ∈ [some ("en" : Text), some "de"]
  simp only [List.mem_cons, List.not_mem_nil, or_false]
  tauto

/-- **A locale that cannot be linted outweighs a finding in another**, in either order and format. -/
theorem run_exitCode_blankEnglish :
    Options.parse pair = .ok pairOptions ∧
      (run Linter.standard Batch.blankEnglish ⟨[], none⟩ [] ["--strict"]).outcome = .ok .findings ∧
      (run Linter.standard Batch.blankEnglish ⟨[], none⟩ [] pair).outcome = .ok .failed ∧
      (∃ locale ∈ [("en" : Text), "de"], Unlintable Batch.blankEnglish "models" locale) ∧
      (run Linter.standard Batch.blankEnglish ⟨[], none⟩ [] triple).outcome = .ok .failed := by
  have hparse : Options.parse pair = .ok pairOptions := rfl
  have hparse' : Options.parse triple = .ok tripleOptions := rfl
  have hlevel : ∃ threshold, Level.ofName Settings.default.logLevel = .ok threshold := ⟨.info, rfl⟩
  have hcode : (run Linter.standard Batch.blankEnglish ⟨[], none⟩ [] pair).outcome = .ok .failed := by
    decide +kernel
  obtain ⟨settings, listed, hload, hlisted, hreasons, hsame⟩ := run_exitCode hparse hcode
  cases hload
  have hpair : listed = [("en" : Text), "de"] :=
    (List.map_inj_right fun _ _ => Option.some.inj).mp hlisted.symm
  refine ⟨hparse, by decide +kernel, hcode, ?_, ?_⟩
  · obtain ⟨dir, hdir, hunlintable⟩ := hreasons.failed.mp rfl
    cases hdir
    rw [← hpair]
    exact hunlintable
  · exact hsame ⟨[], none⟩ Settings.default [] triple tripleOptions rfl hlevel hparse' sameLocales_pair

end Command
end IntentLint
