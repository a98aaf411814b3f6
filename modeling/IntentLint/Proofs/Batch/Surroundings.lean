import IntentLint.Proofs.Batch.Loading

/-!
# `Proofs.Batch.Surroundings` — what a fully named scope leaves to the settings

A scope that names its locales and its directory takes nothing from the settings: under any settings it stands for
the same batch. But the settings are read first all the same, and where they cannot be read there is no run. So
two surroundings make no difference to such a scope exactly when the settings can be read in both of them, or in
neither and for the same reason (`lintIn_named_alike`). A setting that is overridden can still end the run.

That the failures differ otherwise rests on where failures come from: a batch ends with a failure to get a model,
or with a refusal of its sink, and no failure to get a model is one of the settings (`failure_of_lintAll`).
-/

namespace IntentLint

/-- Two runs end in the same way, and have delivered the same. -/
structure Run.Alike {α : Type} (r r' : Run α) : Prop where
  outcome : r.outcome = r'.outcome
  delivered : r.delivered = r'.delivered

/-- The settings can be read in both surroundings, or in neither and for the same reason. -/
def Settings.ReadAlike (around around' : Surroundings) : Prop :=
  (∃ settings settings', load around = .ok settings ∧ load around' = .ok settings') ∨
    ∃ error, load around = .error error ∧ load around' = .error error

/-- The sink, if there is one, refuses no finding with a failure of the settings. -/
def Sink.NoSettingsError (sink? : Option Sink) : Prop :=
  ∀ sink ∈ sink?, ∀ held finding error, sink held finding ≠ .error (.settings error)

theorem Sink.Willing.noSettingsError {sink? : Option Sink} (hs : Sink.Willing sink?) :
    Sink.NoSettingsError sink? := by
  intro sink hsink held finding error h
  rw [hs sink hsink held finding] at h
  cases h

namespace Batch

variable {batch : Batch} {locale : Text} {failure : Failure}

/-! ## Where failures come from -/

/-- A step that fails, or the step behind it. -/
theorem bind_eq_error {α β : Type} {step : Except Failure α} {next : α → Except Failure β}
    (h : step.bind next = .error failure) :
    step = .error failure ∨ ∃ a, step = .ok a ∧ next a = .error failure := by
  cases step with
  | error failure' =>
    cases h
    exact Or.inl rfl
  | ok a => exact Or.inr ⟨a, rfl, h⟩

theorem textOf_ne_settings (error : SettingsError) : batch.textOf locale ≠ .error (.settings error) := by
  unfold textOf
  split
  · simp
  · split <;> simp

theorem decodeAs_ne_settings (cause : Json.Fault → Position → LintCause) (t : Text) (error : SettingsError) :
    decodeAs locale cause t ≠ .error (.settings error) := by
  unfold decodeAs
  split <;> simp

theorem unquote_ne_settings (v : Json) (error : SettingsError) : unquote locale v ≠ .error (.settings error) := by
  cases v with
  | text s => exact decodeAs_ne_settings .malformedText s error
  | _ => simp [unquote]

theorem readDocument_ne_settings (v : Json) (error : SettingsError) :
    Source.readDocument locale v ≠ .error (.settings error) := by
  unfold Source.readDocument
  cases LanguageModel.ofJson v <;> simp [Except.mapError]

/-- No failure to get a model is one of the settings. -/
theorem modelOf_ne_settings (error : SettingsError) : batch.modelOf locale ≠ .error (.settings error) := by
  intro h
  rw [modelOf_eq] at h
  rcases bind_eq_error h with h | ⟨t, -, h⟩
  · exact textOf_ne_settings error h
  · rcases bind_eq_error h with h | ⟨v, -, h⟩
    · exact decodeAs_ne_settings _ t error h
    · rcases bind_eq_error h with h | ⟨w, -, h⟩
      · exact unquote_ne_settings v error h
      · exact readDocument_ne_settings w error h

/-- The model of a locale cannot be had, or the sink refuses a finding, with this failure. -/
def FailsAt (batch : Batch) (locale : Text) (failure : Failure) : Prop :=
  batch.modelOf locale = .error failure ∨ ∃ sink ∈ batch.sink?, ∃ held f, sink held f = .error failure

theorem failure_of_lintLocale {held : List Finding}
    (h : (batch.lintLocale held locale).outcome = .error failure) : batch.FailsAt locale failure := by
  rw [lintLocale_eq] at h
  -- the answer to a lint error is a report, so a failure is one of the run that was attempted
  have hattempt : (Run.ofExcept (batch.modelOf locale) >>= fun m =>
      batch.linter.lintModel batch.sink? held m locale).outcome = .error failure := by
    unfold Run.catchLint at h
    split at h
    · cases h
    · exact h
  rw [Run.outcome_bind, Run.outcome_ofExcept] at hattempt
  rcases bind_eq_error hattempt with hmodel | ⟨m, -, hlint⟩
  · exact Or.inl hmodel
  · exact Or.inr (Linter.refusal_of_lintModel hlint)

theorem failure_of_lintEach {held : List Finding} {locales : List Text}
    (h : (batch.lintEach held locales).outcome = .error failure) :
    ∃ locale ∈ locales, batch.FailsAt locale failure := by
  induction locales generalizing held with
  | nil => cases h
  | cons locale rest ih =>
    unfold lintEach at h
    simp only [Run.andThen_eq_bind, Run.outcome_bind] at h
    rcases bind_eq_error h with hfirst | ⟨r, -, h⟩
    · exact ⟨locale, List.mem_cons_self, failure_of_lintLocale hfirst⟩
    · rcases bind_eq_error h with hrest | ⟨reports, -, h⟩
      · obtain ⟨later, hlater, hfails⟩ := ih hrest
        exact ⟨later, List.mem_cons_of_mem _ hlater, hfails⟩
      · cases h

/-- **What ends a batch is a model that cannot be had, or a refusal of the sink.** -/
theorem failure_of_lintAll {locales : List Text} (h : (batch.lintAll locales).outcome = .error failure) :
    ∃ locale ∈ locales, batch.FailsAt locale failure := by
  unfold lintAll at h
  simp only [Run.outcome_bind, Run.outcome_log, Run.outcome_pure] at h
  rcases bind_eq_error h with hlaunch | ⟨_, -, h⟩
  · cases hlaunch
  · rcases bind_eq_error h with heach | ⟨reports, -, h⟩
    · exact failure_of_lintEach heach
    · cases h

theorem lintAll_ne_settings (hs : Sink.NoSettingsError batch.sink?) (locales : List Text)
    (error : SettingsError) : (batch.lintAll locales).outcome ≠ .error (.settings error) := by
  intro h
  obtain ⟨locale, -, hmodel | ⟨sink, hsink, held, f, hf⟩⟩ := failure_of_lintAll h
  · exact modelOf_ne_settings error hmodel
  · exact hs sink hsink held f error hf

/-! ## Two surroundings -/

variable {around around' : Surroundings} {sink? : Option Sink}

/-- Where the settings cannot be read there is no run. -/
theorem lintIn_of_error {error : SettingsError} (hload : Settings.load around = .error error) (read : Reader)
    (linter : Linter) (sink? : Option Sink) (scope : Scope) :
    lintIn around read linter sink? scope =
      ⟨(Settings.skippedLines around).map .skipped, .error (.settings error)⟩ := by
  unfold lintIn
  rw [readSettings_eq, hload]
  rfl

theorem outcome_of_error {error : SettingsError} (hload : Settings.load around = .error error) (read : Reader)
    (linter : Linter) (sink? : Option Sink) (scope : Scope) :
    (lintIn around read linter sink? scope).outcome = .error (.settings error) := by
  rw [lintIn_of_error hload]

theorem silent_of_error {error : SettingsError} (hload : Settings.load around = .error error) (read : Reader)
    (linter : Linter) (sink? : Option Sink) (scope : Scope) :
    (lintIn around read linter sink? scope).delivered = [] ∧ (lintIn around read linter sink? scope).logged = [] := by
  rw [lintIn_of_error hload, Run.delivered_eq, Run.logged_eq, List.filterMap_map, List.filterMap_map]
  simp [Event.finding?, Event.entry?, Function.comp_def]

/-- Where the settings can be read they are not what a run fails with. -/
theorem outcome_of_load {settings : Settings} (hload : Settings.load around = .ok settings)
    (hs : Sink.NoSettingsError sink?) (read : Reader) (linter : Linter) (scope : Scope) (error : SettingsError) :
    (lintIn around read linter sink? scope).outcome ≠ .error (.settings error) := by
  rw [outcome_lintIn hload]
  exact lintAll_ne_settings hs _ error

/-- **What surroundings mean to a scope that names everything.** Two surroundings make no difference to it when the
settings can be read in both, or in neither and for the same reason. They do make a difference otherwise, at least
with a sink that does not pass its refusals off as failures of the settings: where the settings cannot be read, the
run ends with that failure, before anything is logged or delivered. -/
theorem lintIn_named_alike (around around' : Surroundings) (read : Reader) (linter : Linter)
    (sink? : Option Sink) (locales : List Text) (dir : Text) :
    let run around := lintIn around read linter sink? ⟨some locales, some dir⟩
    (Settings.ReadAlike around around' → Run.Alike (run around) (run around')) ∧
    (Sink.NoSettingsError sink? → Run.Alike (run around) (run around') → Settings.ReadAlike around around') ∧
    ∀ error, Settings.load around = .error error →
      (run around).outcome = .error (.settings error) ∧ (run around).delivered = [] ∧ (run around).logged = [] := by
  intro run
  refine ⟨?_, fun hs halike => ?_, fun error hload => ?_⟩
  · rintro (⟨settings, settings', hload, hload'⟩ | ⟨error, hload, hload'⟩)
    · -- the scope stands for the same batch under both settings
      constructor
      · change (lintIn around ..).outcome = (lintIn around' ..).outcome
        rw [outcome_lintIn hload, outcome_lintIn hload']
        rfl
      · change (lintIn around ..).delivered = (lintIn around' ..).delivered
        rw [delivered_lintIn hload, delivered_lintIn hload']
        rfl
    · constructor
      · exact (outcome_of_error hload ..).trans (outcome_of_error hload' ..).symm
      · exact (silent_of_error hload ..).1.trans (silent_of_error hload' ..).1.symm
  · have houtcome : (run around).outcome = (run around').outcome := halike.outcome
    cases hload : Settings.load around with
    | ok settings =>
      cases hload' : Settings.load around' with
      | ok settings' => exact Or.inl ⟨settings, settings', hload, hload'⟩
      | error error =>
        exact absurd (houtcome.trans (outcome_of_error hload' ..)) (outcome_of_load hload hs read linter _ error)
    | error error =>
      have hend : (run around).outcome = .error (.settings error) := outcome_of_error hload ..
      cases hload' : Settings.load around' with
      | ok settings' => exact absurd (houtcome.symm.trans hend) (outcome_of_load hload' hs read linter _ error)
      | error error' =>
        have hend' : (run around').outcome = .error (.settings error') := outcome_of_error hload' ..
        rw [houtcome, hend'] at hend
        cases hend
        exact Or.inr ⟨error, hload, hload'⟩
  · exact ⟨outcome_of_error hload .., silent_of_error hload ..⟩

/-- Other locales in the settings make no difference to a run over a locale that is named. -/
theorem lintIn_named_alike_german :
    Settings.ReadAlike ⟨[("LOCALES", "[\"de\"]")], none⟩ ⟨[], none⟩ ∧ Sink.NoSettingsError none ∧
      Run.Alike
        (lintIn ⟨[("LOCALES", "[\"de\"]")], none⟩ blankEnglish Linter.standard none ⟨some ["en"], some "models"⟩)
        (lintIn ⟨[], none⟩ blankEnglish Linter.standard none ⟨some ["en"], some "models"⟩) := by
  have hread : Settings.ReadAlike ⟨[("LOCALES", "[\"de\"]")], none⟩ ⟨[], none⟩ := by
    refine Or.inl ⟨{ Settings.default with locales := ["de"] }, Settings.default, ?_, rfl⟩
    decide +kernel
  exact ⟨hread, Sink.willing_none.noSettingsError,
    (lintIn_named_alike _ _ blankEnglish Linter.standard none ["en"] "models").1 hread⟩

/-- **A setting that is overridden ends a run.** The list of locales in the environment is malformed, the run names
its locales and its directory, and there are no reports. Without the variable there are. -/
theorem lintIn_named_malformed :
    (lintIn ⟨[("LOCALES", "en")], none⟩ blankEnglish Linter.standard none ⟨some ["en"], some "models"⟩).outcome =
        .error (.settings (.malformedLocales false)) ∧
      (lintIn ⟨[], none⟩ blankEnglish Linter.standard none ⟨some ["en"], some "models"⟩).outcome =
        .ok [("en", Linter.standard.report ⟨[("A", ⟨some [" x"]⟩)], none⟩ "en")] := by
  constructor
  · decide +kernel
  · decide +kernel

end Batch
end IntentLint
