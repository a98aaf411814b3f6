import IntentLint.Linter
import IntentLint.Proofs.Run

/-!
# `Proofs.Linter.Tally` — what a chain of checks comes to, without its run

A chain is a run of deliveries and log entries, but what it comes to depends on the model alone: each check
contributes its findings or, when it breaks down, its name. `Linter.tally` says this check by check,
`Linter.report` is the report built from it, and `Linter.chainEvents` is what happens on the way.

* `runChecks_of_takes` — when the sink takes the findings of the tally, the chain comes to the tally and has
  handed over all of them;
* `runChecks_of_silent` — a chain that finds nothing calls no sink;
* `runChecks_of_refusal` — when it refuses one, the chain ends in the check that found it, and what stands
  after that check leaves no trace;
* `lintModel_of_takes`, `exists_lintModel_of_refusal` — the same for a run over a model with its report.
-/

namespace IntentLint

namespace Check

/-- The findings of a check in a model; none when the check breaks down. -/
def findingsIn (m : LanguageModel) (locale : Text) (check : Check) : List Finding :=
  match check.run m locale with
  | .ok findings => findings
  | .error _ => []

/-- The check breaks down on a model. -/
def breaksOn (m : LanguageModel) (locale : Text) (check : Check) : Bool :=
  match check.run m locale with
  | .ok _ => false
  | .error _ => true

theorem findingsIn_of_ok {check : Check} {m : LanguageModel} {locale : Text} {findings : List Finding}
    (h : check.run m locale = .ok findings) : check.findingsIn m locale = findings := by
  unfold findingsIn
  rw [h]

theorem findingsIn_of_error {check : Check} {m : LanguageModel} {locale message : Text}
    (h : check.run m locale = .error message) : check.findingsIn m locale = [] := by
  unfold findingsIn
  rw [h]

theorem breaksOn_of_ok {check : Check} {m : LanguageModel} {locale : Text} {findings : List Finding}
    (h : check.run m locale = .ok findings) : check.breaksOn m locale = false := by
  unfold breaksOn
  rw [h]

theorem breaksOn_of_error {check : Check} {m : LanguageModel} {locale message : Text}
    (h : check.run m locale = .error message) : check.breaksOn m locale = true := by
  unfold breaksOn
  rw [h]

theorem run_of_mem_findingsIn {check : Check} {m : LanguageModel} {locale : Text} {f : Finding}
    (h : f ∈ check.findingsIn m locale) : check.run m locale = .ok (check.findingsIn m locale) := by
  cases hc : check.run m locale with
  | ok findings => rw [findingsIn_of_ok hc]
  | error message =>
    rw [findingsIn_of_error hc] at h
    cases h

/-- What happens when a check runs: its findings are handed to the sink, or its breakdown is logged. -/
def eventsIn (sink? : Option Sink) (m : LanguageModel) (locale : Text) (check : Check) : List Event :=
  match check.run m locale with
  | .ok findings => Sink.handed sink? findings
  | .error message => [.logged (.checkFailed check.name locale message)]

/-- The entry of a check that breaks down. -/
def breakdown? (m : LanguageModel) (locale : Text) (check : Check) : Option LogEntry :=
  match check.run m locale with
  | .ok _ => none
  | .error message => some (.checkFailed check.name locale message)

theorem finding?_eventsIn (sink? : Option Sink) (m : LanguageModel) (locale : Text) (check : Check) :
    (check.eventsIn sink? m locale).filterMap Event.finding? =
      if sink?.isSome then check.findingsIn m locale else [] := by
  cases hc : check.run m locale with
  | ok findings => simp only [eventsIn, findingsIn, hc, Sink.finding?_handed]
  | error message => simp [eventsIn, findingsIn, hc, Event.finding?]

theorem entry?_eventsIn (sink? : Option Sink) (m : LanguageModel) (locale : Text) (check : Check) :
    (check.eventsIn sink? m locale).filterMap Event.entry? = (check.breakdown? m locale).toList := by
  cases hc : check.run m locale with
  | ok findings => simp only [eventsIn, breakdown?, hc, Sink.entry?_handed, Option.toList_none]
  | error message => simp [eventsIn, breakdown?, hc, Event.entry?]

end Check

namespace Linter

/-- What a chain of checks comes to: all findings, and the names of the checks that break down. -/
def tally (m : LanguageModel) (locale : Text) (checks : List Check) : Tally where
  findings := checks.flatMap (Check.findingsIn m locale)
  failedChecks := (checks.filter (Check.breaksOn m locale)).map Check.name

/-- The report of a model. -/
def report (linter : Linter) (m : LanguageModel) (locale : Text) : Report :=
  Report.build locale (tally m locale linter.checks).findings (tally m locale linter.checks).failedChecks

variable {m : LanguageModel} {locale : Text}

theorem tally_cons_of_ok {check : Check} {findings : List Finding}
    (h : check.run m locale = .ok findings) (rest : List Check) :
    tally m locale (check :: rest) =
      { tally m locale rest with findings := findings ++ (tally m locale rest).findings } := by
  simp [tally, Check.findingsIn_of_ok h, Check.breaksOn_of_ok h]

theorem tally_cons_of_error {check : Check} {message : Text}
    (h : check.run m locale = .error message) (rest : List Check) :
    tally m locale (check :: rest) =
      { tally m locale rest with failedChecks := check.name :: (tally m locale rest).failedChecks } := by
  simp [tally, Check.findingsIn_of_error h, Check.breaksOn_of_error h]

theorem findings_tally_append (before after : List Check) :
    (tally m locale (before ++ after)).findings =
      (tally m locale before).findings ++ (tally m locale after).findings := List.flatMap_append

theorem failedChecks_tally_append (before after : List Check) :
    (tally m locale (before ++ after)).failedChecks =
      (tally m locale before).failedChecks ++ (tally m locale after).failedChecks := by
  simp [tally]

/-- A finding of a chain is a finding of one of its checks, behind what that check and those before it found
first. -/
theorem exists_check_of_findings {checks : List Check} {first later : List Finding} {f : Finding}
    (h : (tally m locale checks).findings = first ++ f :: later) :
    ∃ before check after found more, checks = before ++ check :: after ∧
      check.run m locale = .ok (found ++ f :: more) ∧ first = (tally m locale before).findings ++ found := by
  induction checks generalizing first with
  | nil => simp [tally] at h
  | cons check rest ih =>
    have hcons : (tally m locale (check :: rest)).findings =
        check.findingsIn m locale ++ (tally m locale rest).findings := rfl
    have hlater : ∀ gap, (tally m locale rest).findings = gap ++ f :: later →
        first = check.findingsIn m locale ++ gap → ∃ before check' after found more,
          check :: rest = before ++ check' :: after ∧ check'.run m locale = .ok (found ++ f :: more) ∧
            first = (tally m locale before).findings ++ found := by
      rintro gap hrest rfl
      obtain ⟨before, check', after, found, more, rfl, hrun, rfl⟩ := ih hrest
      refine ⟨check :: before, check', after, found, more, rfl, hrun, ?_⟩
      rw [← List.append_assoc]
      rfl
    rw [hcons] at h
    -- the finding stands among those of the first check or among those of the checks after it
    rcases List.append_eq_append_iff.mp h with ⟨gap, hfirst, hrest⟩ | ⟨gap, hfound, hrest⟩
    · exact hlater gap hrest hfirst
    · cases gap with
      | nil =>
        rw [List.append_nil] at hfound
        exact hlater [] hrest.symm (by rw [hfound, List.append_nil])
      | cons g gap =>
        obtain ⟨rfl, -⟩ := List.cons_eq_cons.mp hrest
        have hmem : f ∈ check.findingsIn m locale := by
          rw [hfound]
          simp
        refine ⟨[], check, rest, first, gap, rfl, ?_, rfl⟩
        rw [Check.run_of_mem_findingsIn hmem, hfound]

/-! ## Events of a chain -/

/-- What happens when a chain of checks runs. -/
def chainEvents (sink? : Option Sink) (m : LanguageModel) (locale : Text) (checks : List Check) :
    List Event :=
  checks.flatMap (Check.eventsIn sink? m locale)

/-- The entries of the checks that break down. -/
def breakdowns (m : LanguageModel) (locale : Text) (checks : List Check) : List LogEntry :=
  checks.filterMap (Check.breakdown? m locale)

/-- A chain hands over its findings. -/
theorem finding?_chainEvents (sink? : Option Sink) (checks : List Check) :
    (chainEvents sink? m locale checks).filterMap Event.finding? =
      if sink?.isSome then (tally m locale checks).findings else [] := by
  simp only [chainEvents, tally, List.filterMap_flatMap, Check.finding?_eventsIn]
  cases sink?.isSome <;> simp

/-- A chain logs its breakdowns. -/
theorem entry?_chainEvents (sink? : Option Sink) (checks : List Check) :
    (chainEvents sink? m locale checks).filterMap Event.entry? = breakdowns m locale checks := by
  simp only [chainEvents, breakdowns, List.filterMap_flatMap, Check.entry?_eventsIn]
  induction checks with
  | nil => rfl
  | cons check rest ih =>
    rw [List.flatMap_cons, ih, List.filterMap_cons]
    cases check.breakdown? m locale <;> rfl

/-- The entries of the checks that break down have the names that the chain comes to, in the same order. -/
theorem exists_messages_breakdowns (checks : List Check) :
    ∃ broken : List (Text × Text), broken.map (·.1) = (tally m locale checks).failedChecks ∧
      breakdowns m locale checks = broken.map fun b => .checkFailed b.1 locale b.2 := by
  induction checks with
  | nil => exact ⟨[], rfl, rfl⟩
  | cons check rest ih =>
    obtain ⟨broken, hnames, hentries⟩ := ih
    cases hc : check.run m locale with
    | ok findings =>
      refine ⟨broken, ?_, ?_⟩
      · rw [tally_cons_of_ok hc, hnames]
      · rw [← hentries]
        simp [breakdowns, Check.breakdown?, hc]
    | error message =>
      refine ⟨(check.name, message) :: broken, ?_, ?_⟩
      · rw [tally_cons_of_error hc, List.map_cons, hnames]
      · rw [List.map_cons, ← hentries]
        simp [breakdowns, Check.breakdown?, hc]

/-- A chain that finds nothing happens as if there were no sink. -/
theorem chainEvents_of_silent {checks : List Check} (h : (tally m locale checks).findings = [])
    (sink? : Option Sink) : chainEvents sink? m locale checks = chainEvents none m locale checks := by
  have hnone : ∀ check ∈ checks, check.findingsIn m locale = [] := List.flatMap_eq_nil_iff.mp h
  unfold chainEvents
  rw [List.flatMap_def, List.flatMap_def]
  refine congrArg List.flatten (List.map_congr_left fun check hcheck => ?_)
  unfold Check.eventsIn
  cases hc : check.run m locale with
  | error message => rfl
  | ok findings =>
    have hfindings := hnone check hcheck
    rw [Check.findingsIn_of_ok hc] at hfindings
    subst hfindings
    simp [Sink.handed]

/-! ## Runs of a chain -/

/-- **A chain whose findings the sink takes comes to its tally.** Breakdowns are counted and not passed on. -/
theorem runChecks_of_takes {sink? : Option Sink} {held : List Finding} {checks : List Check}
    (h : Sink.Takes sink? held (tally m locale checks).findings) :
    runChecks sink? held m locale checks =
      ⟨chainEvents sink? m locale checks, .ok (tally m locale checks)⟩ := by
  -- what the sink holds grows from check to check, and it takes the findings of each one in turn
  induction checks generalizing held with
  | nil => rfl
  | cons check rest ih =>
    unfold runChecks
    cases hc : check.run m locale with
    | ok findings =>
      rw [tally_cons_of_ok hc] at h ⊢
      obtain ⟨hfirst, hrest⟩ := Sink.takes_append_iff.mp h
      simp only [Sink.deliverTo_of_takes hfirst, ih hrest, Run.ok_bind]
      simp [chainEvents, Check.eventsIn, hc, pure, Run.done]
    | error message =>
      rw [tally_cons_of_error hc] at h ⊢
      simp only [Run.log, ih h, Run.ok_bind]
      simp [chainEvents, Check.eventsIn, hc, pure, Run.done]

/-- A chain that finds nothing runs as if there were no sink: none is called. -/
theorem runChecks_of_silent {checks : List Check} (h : (tally m locale checks).findings = [])
    (sink? : Option Sink) (held : List Finding) :
    runChecks sink? held m locale checks = runChecks none [] m locale checks := by
  have htakes : ∀ sink? held, Sink.Takes sink? held (tally m locale checks).findings := by
    intro sink? held
    rw [h]
    exact Sink.takes_nil
  rw [runChecks_of_takes (htakes sink? held), runChecks_of_takes (htakes none []),
    chainEvents_of_silent h sink?]

/-- **A chain one of whose findings the sink refuses ends there.** The checks before the one that found it ran,
what that one found first was handed over, and the checks after it leave no trace. -/
theorem runChecks_of_refusal {sink : Sink} {held found more : List Finding} {before : List Check}
    {check : Check} {f : Finding} {failure : Failure} (hrun : check.run m locale = .ok (found ++ f :: more))
    (htakes : Sink.Takes (some sink) held ((tally m locale before).findings ++ found))
    (hf : sink (held ++ ((tally m locale before).findings ++ found)) f = .error failure)
    (after : List Check) :
    runChecks (some sink) held m locale (before ++ check :: after) =
      ⟨chainEvents (some sink) m locale before ++ found.map .delivered, .error failure⟩ := by
  -- every check before the refusal adds what it found to what the sink holds
  induction before generalizing held with
  | nil =>
    simp only [List.nil_append, tally, List.flatMap_nil] at htakes hf ⊢
    unfold runChecks
    simp only [hrun, Sink.deliverTo, Sink.deliver_of_refusal htakes hf, Run.error_bind]
    rfl
  | cons first rest ih =>
    rw [List.cons_append]
    unfold runChecks
    cases hc : first.run m locale with
    | ok findings =>
      rw [tally_cons_of_ok hc, List.append_assoc] at htakes hf
      obtain ⟨hfirst, hrest⟩ := Sink.takes_append_iff.mp htakes
      rw [← List.append_assoc] at hf
      simp only [Sink.deliverTo_of_takes hfirst, ih hrest hf, Run.ok_bind, Run.error_bind]
      simp [chainEvents, Check.eventsIn, hc]
    | error message =>
      rw [tally_cons_of_error hc] at htakes hf
      simp only [Run.log, ih htakes hf, Run.ok_bind, Run.error_bind]
      simp [chainEvents, Check.eventsIn, hc]

/-! ## Runs of a linter -/

/-- To lint a model is to run the chain over it. -/
theorem lint_model (linter : Linter) (sink? : Option Sink) (held : List Finding) (m : LanguageModel)
    (locale : Text) :
    linter.lint sink? held (.model m) locale = linter.lintModel sink? held m locale := rfl

/-- To lint a source that reads as a model is to lint the model. -/
theorem lint_of_read {source : Source} (hread : source.read locale = .ok m) (linter : Linter)
    (sink? : Option Sink) (held : List Finding) :
    linter.lint sink? held source locale = linter.lintModel sink? held m locale := by
  unfold lint
  rw [hread, Run.ofExcept_ok_bind]

/-- The entry of a model that went through the checks. -/
def checkedEntry (linter : Linter) (m : LanguageModel) (locale : Text) : LogEntry :=
  .checked locale (linter.report m locale).passed (linter.report m locale).summary
    (linter.report m locale).findings.length linter.names.eraseDups

/-- **A run over a model whose findings the sink takes ends with the report of the model.** -/
theorem lintModel_of_takes {linter : Linter} {sink? : Option Sink} {held : List Finding}
    (h : Sink.Takes sink? held (linter.report m locale).findings) :
    linter.lintModel sink? held m locale =
      ⟨chainEvents sink? m locale linter.checks ++ [.logged (linter.checkedEntry m locale)],
        .ok (linter.report m locale)⟩ := by
  unfold lintModel
  simp only [runChecks_of_takes h, Run.ok_bind]
  rfl

/-- **A run over a model ends with the first finding that the sink refuses.** It is what the run would be if
the checks after the one that found it were others. -/
theorem exists_lintModel_of_refusal {linter : Linter} {sink : Sink} {held accepted later : List Finding}
    {f : Finding} {failure : Failure} (h : (linter.report m locale).findings = accepted ++ f :: later)
    (htakes : Sink.Takes (some sink) held accepted) (hf : sink (held ++ accepted) f = .error failure) :
    ∃ before check after found more, linter.checks = before ++ check :: after ∧
      check.run m locale = .ok (found ++ f :: more) ∧ accepted = (tally m locale before).findings ++ found ∧
      ∀ others, (Linter.mk (before ++ check :: others)).lintModel (some sink) held m locale =
        ⟨chainEvents (some sink) m locale before ++ found.map .delivered, .error failure⟩ := by
  obtain ⟨before, check, after, found, more, hchecks, hrun, rfl⟩ := exists_check_of_findings h
  refine ⟨before, check, after, found, more, hchecks, hrun, rfl, fun others => ?_⟩
  unfold lintModel
  simp only [runChecks_of_refusal hrun htakes hf, Run.error_bind]

/-- A run over a model whose finding the sink refuses ends with that refusal. -/
theorem outcome_lintModel_of_refusal {linter : Linter} {sink : Sink} {held accepted later : List Finding}
    {f : Finding} {failure : Failure} (h : (linter.report m locale).findings = accepted ++ f :: later)
    (htakes : Sink.Takes (some sink) held accepted) (hf : sink (held ++ accepted) f = .error failure) :
    (linter.lintModel (some sink) held m locale).outcome = .error failure := by
  obtain ⟨before, check, after, found, more, hchecks, -, -, hlint⟩ :=
    exists_lintModel_of_refusal h htakes hf
  have hself : linter = ⟨before ++ check :: after⟩ := by rw [← hchecks]
  rw [hself, hlint after]

/-- A run over a model that succeeds had a sink that takes its findings. -/
theorem takes_of_lintModel {linter : Linter} {sink? : Option Sink} {held : List Finding} {r : Report}
    (h : (linter.lintModel sink? held m locale).outcome = .ok r) :
    Sink.Takes sink? held (linter.report m locale).findings := by
  cases sink? with
  | none => exact Sink.willing_none.takes held _
  | some sink =>
    rcases Sink.takes_or_refuses sink held (linter.report m locale).findings with
      htakes | ⟨accepted, f, later, failure, hfindings, htakes, hf⟩
    · exact htakes
    · -- a refusal would have ended the run
      rw [outcome_lintModel_of_refusal hfindings htakes hf] at h
      cases h

/-- A run over a model that succeeds ends with the report of the model. -/
theorem lintModel_eq_ok {linter : Linter} {sink? : Option Sink} {held : List Finding} {r : Report}
    (h : (linter.lintModel sink? held m locale).outcome = .ok r) : r = linter.report m locale := by
  rw [lintModel_of_takes (takes_of_lintModel h)] at h
  exact (Except.ok.inj h).symm

/-- **With a willing sink a run over a model ends with its report.** -/
theorem outcome_lintModel {sink? : Option Sink} (hs : Sink.Willing sink?) (linter : Linter)
    (held : List Finding) :
    (linter.lintModel sink? held m locale).outcome = .ok (linter.report m locale) := by
  rw [lintModel_of_takes (hs.takes held _)]

/-- **A run over a model fails with a refusal of its sink, or not at all.** -/
theorem refusal_of_lintModel {linter : Linter} {sink? : Option Sink} {held : List Finding}
    {failure : Failure} (h : (linter.lintModel sink? held m locale).outcome = .error failure) :
    ∃ sink ∈ sink?, ∃ held f, sink held f = .error failure := by
  cases sink? with
  | none =>
    rw [outcome_lintModel Sink.willing_none] at h
    cases h
  | some sink =>
    rcases Sink.takes_or_refuses sink held (linter.report m locale).findings with
      htakes | ⟨accepted, f, later, refusal, hfindings, htakes, hf⟩
    · rw [lintModel_of_takes htakes] at h
      cases h
    · rw [outcome_lintModel_of_refusal hfindings htakes hf] at h
      cases h
      exact ⟨sink, rfl, _, f, hf⟩

/-- A run over a model that succeeds has delivered the findings of its report. -/
theorem delivered_lintModel {linter : Linter} {sink? : Option Sink} {held : List Finding} {r : Report}
    (h : (linter.lintModel sink? held m locale).outcome = .ok r) :
    (linter.lintModel sink? held m locale).delivered = if sink?.isSome then r.findings else [] := by
  rw [lintModel_eq_ok h, lintModel_of_takes (takes_of_lintModel h), Run.delivered_eq, List.filterMap_append,
    finding?_chainEvents]
  simp [Event.finding?, report, Report.build]

end Linter
end IntentLint
