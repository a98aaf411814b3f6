import IntentLint.Command.Run
import IntentLint.Proofs.Batch.Containment
import IntentLint.Proofs.Command.Options

/-!
# `Proofs.Command.ExitCode` — what the exit code of a strict run tells about its reports

The exit code is worked out from the errors and the findings of the reports (`exitReasons_exitCode`). Whether a
report passed is worked out from its findings and from the checks that broke down. So a strict run with exit code
zero has neither errors nor findings, and such a report passed exactly when no check broke down on its model: the
exit code says nothing about that.
-/

namespace IntentLint

/-! ## Reports -/

/-- **A report passes when nothing was found and no check broke down.** -/
theorem Linter.passed_report_iff {linter : Linter} {m : LanguageModel} {locale : Text} :
    (linter.report m locale).passed = true ↔
      (linter.report m locale).findings = [] ∧
        ∀ check ∈ linter.checks, check.breaksOn m locale = false := by
  simp [report, Report.build, tally]

/-! ## Runs without a name -/

/-- No run goes on past a locale without a name. -/
theorem Batch.endUnnamed_ne_ok (batch : Batch) (reports : Entries Text Report) :
    batch.endUnnamed.outcome ≠ .ok reports := by
  intro h
  simp only [endUnnamed] at h
  split at h
  · cases h
  · cases h
  · cases h

namespace Command

theorem willing_sink? (format : OutputFormat) : Sink.Willing (sink? format) := by
  cases format with
  | text => exact Sink.willing_accepting
  | json => exact Sink.willing_none
  | unnamed => exact Sink.willing_none

/-! ## Exit codes -/

/-- An exit code, and when it is the one: what cannot be linted decides first, and findings count only in strict
runs. -/
structure ExitReasons (strict : Bool) (unlintable unclean : Prop) (code : ExitCode) : Prop where
  failed : code.number = 2 ↔ unlintable
  findings : code.number = 1 ↔ ¬ unlintable ∧ strict = true ∧ unclean
  ok : code.number = 0 ↔ ¬ unlintable ∧ ¬ (strict = true ∧ unclean)

/-- The exit code of reports, by their errors and findings. -/
theorem exitReasons_exitCode (strict : Bool) (reports : Entries Text Report) :
    ExitReasons strict (∃ e ∈ reports, e.2.hasError = true) (∃ e ∈ reports, e.2.findings ≠ [])
      (exitCode strict reports) := by
  have herror : reports.any (·.2.hasError) = true ↔ ∃ e ∈ reports, e.2.hasError = true := List.any_eq_true
  have hfound : reports.any (!·.2.findings.isEmpty) = true ↔ ∃ e ∈ reports, e.2.findings ≠ [] := by
    simp [List.any_eq_true]
  rw [← herror, ← hfound]
  unfold exitCode
  -- what is left is the order in which errors, strictness and findings are asked for
  cases reports.any (·.2.hasError) <;> cases strict <;> cases reports.any (!·.2.findings.isEmpty) <;>
    constructor <;> decide

theorem ExitCode.number_injective : Function.Injective ExitCode.number := by
  intro code code' h
  cases code <;> cases code' <;> first | rfl | cases h

/-- There is one exit code for given reasons. -/
theorem ExitReasons.unique {strict : Bool} {unlintable unclean : Prop} {code code' : ExitCode}
    (h : ExitReasons strict unlintable unclean code) (h' : ExitReasons strict unlintable unclean code') :
    code = code' := by
  apply ExitCode.number_injective
  -- the number of the first code says which reason holds, and that is the number of the second
  cases code with
  | ok => exact (h'.ok.mpr (h.ok.mp rfl)).symm
  | findings => exact (h'.findings.mpr (h.findings.mp rfl)).symm
  | failed => exact (h'.failed.mpr (h.failed.mp rfl)).symm

/-- A strict run has exit code zero when no report has an error or a finding. -/
theorem exitCode_strict_eq_ok_iff {reports : Entries Text Report} :
    exitCode true reports = .ok ↔ ∀ e ∈ reports, e.2.hasError = false ∧ e.2.findings = [] := by
  have hnumber : exitCode true reports = .ok ↔ (exitCode true reports).number = 0 :=
    ⟨fun h => congrArg ExitCode.number h, fun h => ExitCode.number_injective h⟩
  rw [hnumber, (exitReasons_exitCode true reports).ok]
  constructor
  · rintro ⟨hnone, hclean⟩ e he
    constructor
    · exact Bool.eq_false_iff.mpr fun herror => hnone ⟨e, he, herror⟩
    · exact Decidable.byContradiction fun hne => hclean ⟨rfl, e, he, hne⟩
  · intro h
    constructor
    · rintro ⟨e, he, herror⟩
      rw [(h e he).1] at herror
      cases herror
    · rintro ⟨-, e, he, hne⟩
      exact hne (h e he).2

/-! ## Runs -/

/-- The reports of a run of the command with some options, which completes. -/
def Reports (linter : Linter) (read : Reader) (around : Surroundings) (options : Options)
    (settings : Settings) (reports : Entries Text Report) : Prop :=
  Settings.load around = .ok settings ∧ (∃ threshold, Level.ofName settings.logLevel = .ok threshold) ∧
    (lint linter read options settings).outcome = .ok reports

variable {linter : Linter} {read : Reader} {around : Surroundings} {time : Text} {argv : List Text}
  {options : Options} {settings : Settings} {reports : Entries Text Report}

/-- **How a run ends**: with the failure of the settings, with a reserved name for the threshold, or as the
linting does. -/
theorem outcome_run_eq (hparse : Options.parse argv = .ok options) :
    (run linter read around time argv).outcome =
      ((Settings.load around).mapError .settings).bind fun settings =>
        ((Level.ofName settings.logLevel).mapError .reservedLevel).bind fun _ =>
          (lint linter read options settings).outcome.map (exitCode options.strict) := by
  unfold run
  simp only [hparse, readSettings_eq]
  cases Settings.load around with
  | error error => rfl
  | ok settings =>
    simp only [Except.mapError, Except.bind, output]
    cases Level.ofName settings.logLevel with
    | error name => rfl
    | ok threshold =>
      cases (lint linter read options settings).outcome with
      | error failure => simp only [Except.map]
      | ok reports =>
        simp only [Except.map]
        cases options.format <;> rfl

/-- **A run that is not refused ends with the exit code of its reports**, if it completes. -/
theorem outcome_run_eq_ok_iff {code : ExitCode} (hparse : Options.parse argv = .ok options) :
    (run linter read around time argv).outcome = .ok code ↔
      ∃ settings reports, Reports linter read around options settings reports ∧
        exitCode options.strict reports = code := by
  rw [outcome_run_eq hparse]
  constructor
  · intro h
    cases hload : Settings.load around with
    | error error =>
      rw [hload] at h
      cases h
    | ok settings =>
      simp only [hload, Except.mapError, Except.bind] at h
      cases hlevel : Level.ofName settings.logLevel with
      | error name =>
        rw [hlevel] at h
        cases h
      | ok threshold =>
        simp only [hlevel] at h
        cases hlint : (lint linter read options settings).outcome with
        | error failure =>
          rw [hlint] at h
          cases h
        | ok reports =>
          rw [hlint] at h
          exact ⟨settings, reports, ⟨hload, ⟨threshold, hlevel⟩, hlint⟩, Except.ok.inj h⟩
  · rintro ⟨settings, reports, ⟨hload, ⟨threshold, hlevel⟩, hlint⟩, rfl⟩
    rw [hload]
    simp only [Except.mapError, Except.bind, hlevel, hlint, Except.map]

/-- A run in which a name was left out ends without reports, if it ends well. -/
theorem reports_of_lintUnnamed {sink? : Option Sink}
    (h : (lintUnnamed read linter sink? options settings).outcome = .ok reports) : reports = [] := by
  unfold lintUnnamed at h
  obtain ⟨_, -, h⟩ := Run.outcome_bind_eq_ok.mp h
  cases hdir : options.dirUnder settings with
  | none =>
    simp only [hdir] at h
    split at h
    · obtain ⟨_, -, h⟩ := Run.outcome_bind_eq_ok.mp h
      cases h
      rfl
    · cases h
  | some dir =>
    simp only [hdir] at h
    obtain ⟨_, -, h⟩ := Run.outcome_bind_eq_ok.mp h
    exact absurd h (Batch.endUnnamed_ne_ok _ reports)

/-- **Every report of a run is that of its locale**, under the directory that the options ask for. -/
theorem reportOf_of_reports (h : Reports linter read around options settings reports)
    {e : Text × Report} (he : e ∈ reports) :
    ∃ dir, options.dirUnder settings = some dir ∧
      (Batch.mk read dir linter (sink? options.format)).reportOf e.1 = .ok e.2 := by
  obtain ⟨-, -, hlint⟩ := h
  unfold lint at hlint
  cases hscope : options.scope? with
  | none =>
    simp only [hscope] at hlint
    rw [reports_of_lintUnnamed hlint] at he
    cases he
  | some scope =>
    simp only [hscope] at hlint
    have hs : Sink.Willing (Batch.ofScope read linter (sink? options.format) scope settings).sink? :=
      willing_sink? options.format
    exact ⟨_, options.dirUnder_of_scope? hscope settings, (Batch.mem_of_lintAll hs.noLintError hlint he).2⟩

/-- A run with any linter over one small model: its report is that of the model. -/
theorem reports_plainModel (linter : Linter) :
    Reports linter (fun _ => .ok (Utf8.encode Batch.plainModel)) ⟨[], none⟩
      { Options.default with strict := true } Settings.default
      [(("en" : Text), linter.report ⟨[], none⟩ "en")] := by
  let batch : Batch := ⟨fun _ => .ok (Utf8.encode Batch.plainModel), Settings.default.modelsDir, linter,
    sink? Options.default.format⟩
  have hreport : batch.reportOf "en" = .ok (linter.report ⟨[], none⟩ "en") :=
    Batch.reportOf_of_model (Batch.modelOf_plainModel Batch.usable_default rfl)
  have hs : Sink.Willing batch.sink? := willing_sink? Options.default.format
  exact ⟨rfl, ⟨_, rfl⟩, Batch.outcome_lintAll_singleton hs hreport⟩

/-- **What exit code zero of a strict run tells.** No report has an error or a finding, and nothing else is
asked. Such a report is that of a model in the file of its locale, and it passed exactly when no check broke
down on that model. -/
theorem run_strict_eq_ok_iff (hparse : Options.parse argv = .ok options) (hstrict : options.strict = true) :
    ((run linter read around time argv).outcome = .ok .ok ↔
      ∃ settings reports, Reports linter read around options settings reports ∧
        ∀ e ∈ reports, e.2.error = none ∧ e.2.findings = []) ∧
    ∀ settings reports, Reports linter read around options settings reports →
      ∀ e ∈ reports, e.2.error = none → e.2.findings = [] →
        ∃ dir m, options.dirUnder settings = some dir ∧
          read.HoldsModel (Path.ofModel dir e.1).text m ∧
          (e.2.passed = true ↔ ∀ check ∈ linter.checks, check.breaksOn m e.1 = false) := by
  constructor
  · rw [outcome_run_eq_ok_iff hparse, hstrict]
    refine exists_congr fun settings => exists_congr fun reports => and_congr_right fun hreports => ?_
    rw [exitCode_strict_eq_ok_iff]
    -- the exit code asks for a message and not for an error, but no report has an error without a message
    refine forall_congr' fun e => forall_congr' fun he => and_congr_left fun _ => ?_
    obtain ⟨dir, -, hreport⟩ := reportOf_of_reports hreports he
    rw [Batch.hasError_eq_isSome hreport, Option.isSome_eq_false_iff, Option.isNone_iff_eq_none]
  · intro settings reports hreports e he hnone hclean
    obtain ⟨dir, hdir, hreport⟩ := reportOf_of_reports hreports he
    rcases Batch.reportOf_spec hreport with ⟨m, hholds, hm⟩ | ⟨-, error, herror⟩
    · refine ⟨dir, m, hdir, hholds, ?_⟩
      rw [hm] at hclean ⊢
      rw [Linter.passed_report_iff]
      exact ⟨fun h => h.2, fun h => ⟨hclean, h⟩⟩
    · rw [herror] at hnone
      cases hnone

theorem parse_strict : Options.parse ["--strict"] = .ok { Options.default with strict := true } := rfl

/-- A strict run of the standard checks over a small model has exit code zero. -/
theorem run_strict_plainModel :
    Options.parse ["--strict"] = .ok { Options.default with strict := true } ∧
      (run Linter.standard (fun _ => .ok (Utf8.encode Batch.plainModel)) ⟨[], none⟩ [] ["--strict"]).outcome =
        .ok .ok := by
  refine ⟨parse_strict, (run_strict_eq_ok_iff parse_strict rfl).1.mpr ?_⟩
  refine ⟨Settings.default, _, reports_plainModel Linter.standard, fun e he => ?_⟩
  rw [List.mem_singleton.mp he]
  exact ⟨rfl, rfl⟩

/-- **A check that breaks down does not show in the exit code.** The only check of the linter breaks down on
every model, the strict run has exit code zero, and the report did not pass. -/
theorem run_strict_broken_check :
    (run ⟨[⟨"Broken", fun _ _ => .error "broken"⟩]⟩ (fun _ => .ok (Utf8.encode Batch.plainModel))
        ⟨[], none⟩ [] ["--strict"]).outcome = .ok .ok ∧
      ∃ reports, Reports ⟨[⟨"Broken", fun _ _ => .error "broken"⟩]⟩
          (fun _ => .ok (Utf8.encode Batch.plainModel)) ⟨[], none⟩
          { Options.default with strict := true } Settings.default reports ∧
        ∃ r, Entries.get? ("en" : Text) reports = some r ∧ r.passed = false := by
  have hreports := reports_plainModel ⟨[⟨"Broken", fun _ _ => .error "broken"⟩]⟩
  refine ⟨?_, _, hreports, _, Entries.get?_cons_self _ _ _, rfl⟩
  rw [outcome_run_eq_ok_iff parse_strict]
  refine ⟨Settings.default, _, hreports, exitCode_strict_eq_ok_iff.mpr fun e he => ?_⟩
  rw [List.mem_singleton.mp he]
  exact ⟨rfl, rfl⟩

end Command
end IntentLint
