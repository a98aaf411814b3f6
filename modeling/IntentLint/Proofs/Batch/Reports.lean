import IntentLint.Batch
import IntentLint.Proofs.Entries
import IntentLint.Proofs.Linter.Tally

/-!
# `Proofs.Batch.Reports` — what a batch comes to, locale by locale

With a willing sink the outcome at a locale depends on its model file alone. `Batch.modelOf` is the model that
the file gives or the failure to get it, and `Batch.reportOf` the report that follows: the report of the
model, or that of a failed locale when the failure is a lint error. Any other failure ends the whole batch.

So a batch comes to the reports of its locales, one after the other, up to the first that has none, whatever
sink there is (`outcome_lintAll_eq_mapM`). It succeeds exactly when every locale on the list has a report, and
its reports are those, whatever stands before or after a locale on the list and however often it is listed
(`lintAll_eq_ok_iff`, `get?_of_lintAll`, `mem_of_lintAll`).
-/

namespace IntentLint

/-- A lint error always has something to say. -/
theorem LintError.message_ne_nil (error : LintError) : error.message ≠ [] := by
  obtain ⟨locale, cause⟩ := error
  cases cause <;> simp [LintError.message, Text.ofString]

theorem Report.hasError_failed {locale : Text} (error : LintError) :
    (Report.failed locale (some error.message)).hasError = true := by
  unfold hasError failed
  cases h : error.message with
  | nil => exact absurd h error.message_ne_nil
  | cons c rest => rfl

/-- To read the settings is to note the lines that are passed over, and to load them. -/
theorem readSettings_eq (around : Surroundings) :
    readSettings around =
      ⟨(Settings.skippedLines around).map .skipped, (Settings.load around).mapError .settings⟩ := by
  unfold readSettings Run.skip Run.ofExcept
  rw [Run.ok_bind, List.append_nil]

namespace Batch

/-- The model in the file of a locale, or the failure to get it. -/
def modelOf (batch : Batch) (locale : Text) : Except Failure LanguageModel := do
  let v ← loadModel batch.read batch.modelsDir locale
  (Source.ofJson v).read locale

/-- The report of a locale, or the failure that ends the run at it. -/
def reportOf (batch : Batch) (locale : Text) : Except Failure Report :=
  match batch.modelOf locale with
  | .ok m => .ok (batch.linter.report m locale)
  | .error (.lint error) => .ok (Report.failed locale (some error.message))
  | .error failure => .error failure

variable {batch : Batch} {locale : Text}

theorem reportOf_of_model {m : LanguageModel} (h : batch.modelOf locale = .ok m) :
    batch.reportOf locale = .ok (batch.linter.report m locale) := by
  unfold reportOf
  rw [h]

theorem reportOf_of_lintError {error : LintError} (h : batch.modelOf locale = .error (.lint error)) :
    batch.reportOf locale = .ok (Report.failed locale (some error.message)) := by
  unfold reportOf
  rw [h]

theorem reportOf_of_failure {failure : Failure} (h : batch.modelOf locale = .error failure)
    (hne : ∀ error, failure ≠ .lint error) : batch.reportOf locale = .error failure := by
  unfold reportOf
  rw [h]
  cases failure with
  | lint error => exact absurd rfl (hne error)
  | _ => rfl

/-- **The report of a locale is that of its model, or says why there is none.** -/
theorem reportOf_eq_ok {r : Report} (h : batch.reportOf locale = .ok r) :
    (∃ m, batch.modelOf locale = .ok m ∧ r = batch.linter.report m locale) ∨
      ∃ error, batch.modelOf locale = .error (.lint error) ∧
        r = Report.failed locale (some error.message) := by
  cases hm : batch.modelOf locale with
  | ok m =>
    rw [reportOf_of_model hm] at h
    cases h
    exact Or.inl ⟨m, rfl, rfl⟩
  | error failure =>
    by_cases hlint : ∃ error, failure = .lint error
    · obtain ⟨error, rfl⟩ := hlint
      rw [reportOf_of_lintError hm] at h
      cases h
      exact Or.inr ⟨error, rfl, rfl⟩
    · rw [reportOf_of_failure hm fun error he => hlint ⟨error, he⟩] at h
      cases h

/-- A report of a batch has an error with a message, if it has one at all. -/
theorem hasError_eq_isSome {r : Report} (h : batch.reportOf locale = .ok r) :
    r.hasError = r.error.isSome := by
  rcases reportOf_eq_ok h with ⟨m, -, rfl⟩ | ⟨error, -, rfl⟩
  · rfl
  · exact Report.hasError_failed error

/-! ## One locale -/

/-- To lint a locale is to lint the model in its file, and to answer a lint error. -/
theorem lintLocale_eq (batch : Batch) (held : List Finding) (locale : Text) :
    batch.lintLocale held locale =
      (Run.ofExcept (batch.modelOf locale) >>= fun m =>
        batch.linter.lintModel batch.sink? held m locale).catchLint fun error =>
          ⟨[.logged (.lintFailed locale error.message)],
            .ok (Report.failed locale (some error.message))⟩ := by
  unfold lintLocale Linter.lint modelOf
  cases hload : loadModel batch.read batch.modelsDir locale with
  | error failure => rfl
  | ok v =>
    simp only [Run.ofExcept_ok_bind]
    rfl

/-- A locale with a model is linted as the model is. -/
theorem lintLocale_of_model (hs : Sink.NoLintError batch.sink?) {m : LanguageModel}
    (h : batch.modelOf locale = .ok m) (held : List Finding) :
    batch.lintLocale held locale = batch.linter.lintModel batch.sink? held m locale := by
  rw [lintLocale_eq, h, Run.ofExcept_ok_bind, Run.catchLint_of_ne]
  -- a lint error could only come from the sink
  intro error herror
  obtain ⟨sink, hsink, held', f, hf⟩ := Linter.refusal_of_lintModel herror
  exact hs sink hsink held' f error hf

/-- A locale with a lint error has it logged and reported; no check runs. -/
theorem lintLocale_of_lintError {error : LintError} (h : batch.modelOf locale = .error (.lint error))
    (held : List Finding) :
    batch.lintLocale held locale =
      ⟨[.logged (.lintFailed locale error.message)],
        .ok (Report.failed locale (some error.message))⟩ := by
  rw [lintLocale_eq, h]
  rfl

/-- A locale with any other failure ends the run at once. -/
theorem lintLocale_of_failure {failure : Failure} (h : batch.modelOf locale = .error failure)
    (hne : ∀ error, failure ≠ .lint error) (held : List Finding) :
    batch.lintLocale held locale = .fail failure := by
  rw [lintLocale_eq, h]
  cases failure with
  | lint error => exact absurd rfl (hne error)
  | _ => rfl

/-- **What becomes of a locale that has a report.** Its file gives a model, which went through the checks, or a
lint error, which was logged and reported. -/
theorem lintLocale_cases (hs : Sink.NoLintError batch.sink?) {held : List Finding} {r : Report}
    (h : (batch.lintLocale held locale).outcome = .ok r) :
    (∃ m, batch.modelOf locale = .ok m ∧ r = batch.linter.report m locale ∧
        batch.lintLocale held locale =
          ⟨Linter.chainEvents batch.sink? m locale batch.linter.checks ++
            [.logged (batch.linter.checkedEntry m locale)], .ok r⟩) ∨
      ∃ error, batch.modelOf locale = .error (.lint error) ∧ r = Report.failed locale (some error.message) ∧
        batch.lintLocale held locale = ⟨[.logged (.lintFailed locale error.message)], .ok r⟩ := by
  cases hm : batch.modelOf locale with
  | ok m =>
    have hlint := lintLocale_of_model hs hm held
    rw [hlint] at h
    have hr := Linter.lintModel_eq_ok h
    refine Or.inl ⟨m, rfl, hr, ?_⟩
    rw [hlint, hr, Linter.lintModel_of_takes (Linter.takes_of_lintModel h)]
  | error failure =>
    by_cases hlint : ∃ error, failure = .lint error
    · obtain ⟨error, rfl⟩ := hlint
      rw [lintLocale_of_lintError hm held] at h
      cases h
      exact Or.inr ⟨error, rfl, rfl, lintLocale_of_lintError hm held⟩
    · rw [lintLocale_of_failure hm (fun error he => hlint ⟨error, he⟩) held] at h
      cases h

/-- A locale that comes to a report comes to its own. -/
theorem reportOf_of_lintLocale (hs : Sink.NoLintError batch.sink?) {held : List Finding} {r : Report}
    (h : (batch.lintLocale held locale).outcome = .ok r) : batch.reportOf locale = .ok r := by
  rcases lintLocale_cases hs h with ⟨m, hm, rfl, -⟩ | ⟨error, herror, rfl, -⟩
  · exact reportOf_of_model hm
  · exact reportOf_of_lintError herror

/-- **With a willing sink a locale comes to its report**, whatever was delivered before. -/
theorem outcome_lintLocale (hs : Sink.Willing batch.sink?) (held : List Finding) (locale : Text) :
    (batch.lintLocale held locale).outcome = batch.reportOf locale := by
  -- a lint error is made a report on both sides, and any other failure goes through on both
  cases hm : batch.modelOf locale with
  | ok m => rw [lintLocale_of_model hs.noLintError hm, Linter.outcome_lintModel hs, reportOf_of_model hm]
  | error failure =>
    by_cases hlint : ∃ error, failure = .lint error
    · obtain ⟨error, rfl⟩ := hlint
      rw [lintLocale_of_lintError hm, reportOf_of_lintError hm]
    · have hne : ∀ error, failure ≠ .lint error := fun error he => hlint ⟨error, he⟩
      rw [lintLocale_of_failure hm hne, reportOf_of_failure hm hne]
      rfl

/-- **With a willing sink a locale has the findings of its report delivered**, if there is a sink. -/
theorem delivered_lintLocale (hs : Sink.Willing batch.sink?) {r : Report}
    (h : batch.reportOf locale = .ok r) (held : List Finding) :
    (batch.lintLocale held locale).delivered = if batch.sink?.isSome then r.findings else [] := by
  rcases reportOf_eq_ok h with ⟨m, hm, rfl⟩ | ⟨error, herror, rfl⟩
  · rw [lintLocale_of_model hs.noLintError hm]
    exact Linter.delivered_lintModel (Linter.outcome_lintModel hs _ held)
  · rw [lintLocale_of_lintError herror]
    simp [Run.delivered, Report.failed]

/-! ## Lists of locales -/

/-- **A list of locales comes to the reports of its locales**, up to the first one that has none. -/
theorem outcome_lintEach_eq_mapM (hs : Sink.Willing batch.sink?) (held : List Finding)
    (locales : List Text) :
    (batch.lintEach held locales).outcome =
      locales.mapM fun locale => (batch.reportOf locale).map (Prod.mk locale) := by
  induction locales generalizing held with
  | nil => rfl
  | cons locale rest ih =>
    unfold lintEach
    simp only [Run.andThen_eq_bind, Run.outcome_bind, outcome_lintLocale hs, ih, List.mapM_cons]
    cases batch.reportOf locale <;> rfl

/-- A list of locales that succeeds comes to one report for each place, the report of the locale there. -/
theorem lintEach_eq_ok (hs : Sink.NoLintError batch.sink?) {held : List Finding} {locales : List Text}
    {pairs : List (Text × Report)} (h : (batch.lintEach held locales).outcome = .ok pairs) :
    pairs.map (·.1) = locales ∧ ∀ p ∈ pairs, batch.reportOf p.1 = .ok p.2 := by
  -- `held` grows from locale to locale, and no report depends on it
  induction locales generalizing held pairs with
  | nil =>
    cases h
    simp
  | cons locale rest ih =>
    unfold lintEach at h
    obtain ⟨r, hr, h⟩ := Run.outcome_bind_eq_ok.mp h
    obtain ⟨later, hlater, h⟩ := Run.outcome_bind_eq_ok.mp h
    obtain ⟨hkeys, hreports⟩ := ih hlater
    cases h
    refine ⟨by rw [List.map_cons, hkeys], fun p hp => ?_⟩
    rcases List.mem_cons.mp hp with rfl | hp
    · exact reportOf_of_lintLocale hs hr
    · exact hreports p hp

/-- With a willing sink a list of locales succeeds exactly when each of them has a report. -/
theorem lintEach_eq_ok_iff (hs : Sink.Willing batch.sink?) {held : List Finding} {locales : List Text}
    {pairs : List (Text × Report)} :
    (batch.lintEach held locales).outcome = .ok pairs ↔
      pairs.map (·.1) = locales ∧ ∀ p ∈ pairs, batch.reportOf p.1 = .ok p.2 := by
  refine ⟨lintEach_eq_ok hs.noLintError, ?_⟩
  rintro ⟨rfl, hreports⟩
  induction pairs generalizing held with
  | nil => rfl
  | cons p later ih =>
    have hlater := fun held => @ih held fun q hq => hreports q (List.mem_cons_of_mem _ hq)
    rw [List.map_cons]
    unfold lintEach
    simp only [Run.andThen_eq_bind]
    rw [Run.outcome_bind_eq_ok, outcome_lintLocale hs]
    exact ⟨p.2, hreports p List.mem_cons_self, Run.outcome_bind_eq_ok.mpr ⟨later, hlater _, rfl⟩⟩

/-- Reports for all locales of a list can be put side by side. -/
theorem exists_pairs {locales : List Text} (h : ∀ locale ∈ locales, ∃ r, batch.reportOf locale = .ok r) :
    ∃ pairs : List (Text × Report),
      pairs.map (·.1) = locales ∧ ∀ p ∈ pairs, batch.reportOf p.1 = .ok p.2 := by
  induction locales with
  | nil => exact ⟨[], rfl, by simp⟩
  | cons locale rest ih =>
    obtain ⟨r, hr⟩ := h locale List.mem_cons_self
    obtain ⟨pairs, hkeys, hreports⟩ := ih fun l hl => h l (List.mem_cons_of_mem _ hl)
    refine ⟨(locale, r) :: pairs, by rw [List.map_cons, hkeys], fun p hp => ?_⟩
    rcases List.mem_cons.mp hp with rfl | hp
    · exact hr
    · exact hreports p hp

/-- A batch comes to the entries of what its list comes to. -/
theorem outcome_lintAll_eq_mapM (hs : Sink.Willing batch.sink?) (locales : List Text) :
    (batch.lintAll locales).outcome =
      (locales.mapM fun locale => (batch.reportOf locale).map (Prod.mk locale)).map Entries.ofList := by
  unfold lintAll
  rw [Run.outcome_bind, Run.outcome_log, ← outcome_lintEach_eq_mapM hs []]
  simp only [Except.bind, Run.outcome_bind, Run.outcome_log]
  cases (batch.lintEach [] locales).outcome <;> rfl

/-- The reports of a batch are the entries of a list with one report for each place. -/
theorem lintAll_eq_ok {locales : List Text} {reports : Entries Text Report}
    (h : (batch.lintAll locales).outcome = .ok reports) :
    ∃ pairs, (batch.lintEach [] locales).outcome = .ok pairs ∧ reports = Entries.ofList pairs := by
  unfold lintAll at h
  obtain ⟨_, -, h⟩ := Run.outcome_bind_eq_ok.mp h
  obtain ⟨pairs, hpairs, h⟩ := Run.outcome_bind_eq_ok.mp h
  obtain ⟨_, -, h⟩ := Run.outcome_bind_eq_ok.mp h
  cases h
  exact ⟨pairs, hpairs, rfl⟩

/-- A batch over locales with reports comes to these reports. -/
theorem outcome_lintAll (hs : Sink.Willing batch.sink?) {pairs : List (Text × Report)}
    (h : ∀ p ∈ pairs, batch.reportOf p.1 = .ok p.2) :
    (batch.lintAll (pairs.map (·.1))).outcome = .ok (Entries.ofList pairs) := by
  have heach : (batch.lintEach [] (pairs.map (·.1))).outcome = .ok pairs :=
    (lintEach_eq_ok_iff hs).mpr ⟨rfl, h⟩
  unfold lintAll
  simp only [Run.outcome_bind, Run.outcome_log, heach, Run.outcome_pure, Except.bind]

theorem outcome_lintAll_singleton (hs : Sink.Willing batch.sink?) {r : Report}
    (h : batch.reportOf locale = .ok r) : (batch.lintAll [locale]).outcome = .ok [(locale, r)] := by
  have hpairs : ∀ p ∈ [(locale, r)], batch.reportOf p.1 = .ok p.2 := by
    intro p hp
    rw [List.mem_singleton.mp hp]
    exact h
  exact outcome_lintAll hs hpairs

/-- **A batch succeeds exactly when every locale on its list has a report.** -/
theorem lintAll_eq_ok_iff (hs : Sink.Willing batch.sink?) {locales : List Text} :
    (∃ reports, (batch.lintAll locales).outcome = .ok reports) ↔
      ∀ locale ∈ locales, ∃ r, batch.reportOf locale = .ok r := by
  constructor
  · rintro ⟨reports, h⟩ locale hl
    obtain ⟨pairs, hpairs, -⟩ := lintAll_eq_ok h
    obtain ⟨rfl, hreports⟩ := (lintEach_eq_ok_iff hs).mp hpairs
    obtain ⟨p, hp, rfl⟩ := List.mem_map.mp hl
    exact ⟨p.2, hreports p hp⟩
  · intro h
    obtain ⟨pairs, rfl, hreports⟩ := exists_pairs h
    exact ⟨Entries.ofList pairs, outcome_lintAll hs hreports⟩

/-- **Every locale on the list of a batch is found among its reports, with its own report.** -/
theorem get?_of_lintAll (hs : Sink.Willing batch.sink?) {locales : List Text}
    {reports : Entries Text Report} (h : (batch.lintAll locales).outcome = .ok reports)
    (hl : locale ∈ locales) :
    ∃ r, Entries.get? locale reports = some r ∧ batch.reportOf locale = .ok r := by
  obtain ⟨pairs, hpairs, rfl⟩ := lintAll_eq_ok h
  obtain ⟨rfl, hreports⟩ := (lintEach_eq_ok_iff hs).mp hpairs
  obtain ⟨r, hr, hmem⟩ := Entries.exists_get?_ofList hl
  exact ⟨r, hr, hreports (locale, r) hmem⟩

/-- **A batch ends with the failure of the first locale that has no report.** The reports of the locales
before it are lost, and those after it are not linted. -/
theorem lintAll_eq_error (hs : Sink.Willing batch.sink?) (before after : List Text) {failure : Failure}
    (hbefore : ∀ l ∈ before, ∃ r, batch.reportOf l = .ok r) (h : batch.reportOf locale = .error failure) :
    (batch.lintAll (before ++ locale :: after)).outcome = .error failure := by
  obtain ⟨pairs, hkeys, hreports⟩ := exists_pairs hbefore
  have hpairs : (batch.lintEach [] before).outcome = .ok pairs :=
    (lintEach_eq_ok_iff hs).mpr ⟨hkeys, hreports⟩
  rw [outcome_lintEach_eq_mapM hs] at hpairs
  rw [outcome_lintAll_eq_mapM hs, List.mapM_append, List.mapM_cons, hpairs, h]
  rfl

/-- Nothing else is among the reports of a batch. -/
theorem mem_of_lintAll (hs : Sink.NoLintError batch.sink?) {locales : List Text}
    {reports : Entries Text Report} (h : (batch.lintAll locales).outcome = .ok reports)
    {e : Text × Report} (he : e ∈ reports) : e.1 ∈ locales ∧ batch.reportOf e.1 = .ok e.2 := by
  obtain ⟨pairs, hpairs, rfl⟩ := lintAll_eq_ok h
  obtain ⟨rfl, hreports⟩ := lintEach_eq_ok hs hpairs
  have hmem := Entries.mem_of_mem_ofList he
  exact ⟨List.mem_map.mpr ⟨e, hmem, rfl⟩, hreports e hmem⟩

/-! ## Scopes -/

variable {around : Surroundings} {settings : Settings}

/-- Under valid settings a run is that of the batch of its scope, after the lines passed over are noted. -/
theorem lintIn_of_load (hload : Settings.load around = .ok settings) (read : Reader) (linter : Linter)
    (sink? : Option Sink) (scope : Scope) :
    lintIn around read linter sink? scope =
      ⟨(Settings.skippedLines around).map .skipped ++ (lintScope read linter sink? scope settings).events,
        (lintScope read linter sink? scope settings).outcome⟩ := by
  unfold lintIn
  rw [readSettings_eq, hload]
  rfl

/-- Under valid settings the batch of a scope comes to the reports of its locales. -/
theorem outcome_lintIn (hload : Settings.load around = .ok settings) (read : Reader) (linter : Linter)
    (sink? : Option Sink) (scope : Scope) :
    (lintIn around read linter sink? scope).outcome =
      ((ofScope read linter sink? scope settings).lintAll (scope.localesUnder settings)).outcome := by
  rw [lintIn_of_load hload]
  rfl

theorem delivered_lintIn (hload : Settings.load around = .ok settings) (read : Reader) (linter : Linter)
    (sink? : Option Sink) (scope : Scope) :
    (lintIn around read linter sink? scope).delivered =
      ((ofScope read linter sink? scope settings).lintAll (scope.localesUnder settings)).delivered := by
  rw [lintIn_of_load hload, Run.delivered_eq, List.filterMap_append, List.filterMap_map]
  simp [Event.finding?, Function.comp_def, lintScope, Run.delivered_eq]

theorem logged_lintIn (hload : Settings.load around = .ok settings) (read : Reader) (linter : Linter)
    (sink? : Option Sink) (scope : Scope) :
    (lintIn around read linter sink? scope).logged =
      ((ofScope read linter sink? scope settings).lintAll (scope.localesUnder settings)).logged := by
  rw [lintIn_of_load hload, Run.logged_eq, List.filterMap_append, List.filterMap_map]
  simp [Event.entry?, Function.comp_def, lintScope, Run.logged_eq]

end Batch
end IntentLint
