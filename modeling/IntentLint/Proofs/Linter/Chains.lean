import IntentLint.Proofs.Linter.Tally
import IntentLint.Proofs.Report

/-!
# `Proofs.Linter.Chains` — chains of checks one after the other

Linting with one chain behind another comes to the two reports put together: findings and broken checks one
list after the other, counts added up, and a pass when both pass (`Report.Joins`). What the sink is handed is
put together in the same way.

A check that breaks down adds its name to the report, and nothing else. Taken out of its place in the chain it
takes its name with it; apart from that only the verdict may change, which is worked out from the names and
the findings.
-/

namespace IntentLint

/-! ## Reports put together -/

/-- **A report is put together from two.** -/
structure Report.Joins (first second whole : Report) : Prop where
  locale : whole.locale = first.locale ∧ whole.locale = second.locale
  findings : whole.findings = first.findings ++ second.findings
  failedChecks : whole.failedChecks = first.failedChecks ++ second.failedChecks
  passed : whole.passed = (first.passed && second.passed)
  /-- Codes stand in the order in which the findings first have them, with the sum of the two counts. -/
  summary : whole.summary = ((first.findings ++ second.findings).map (·.code)).eraseDups.map fun code =>
    (code, first.count code + second.count code)
  error : whole.error = none

theorem Report.count_build (locale : Text) (findings : List Finding) (failedChecks : List Text)
    (code : Code) :
    (build locale findings failedChecks).count code = (findings.map (·.code)).count code :=
  get?_summarize findings code

/-- Reports of lists that are put together are put together. -/
theorem Report.joins_build (locale : Text) (findings findings' : List Finding)
    (failed failed' : List Text) :
    Joins (build locale findings failed) (build locale findings' failed')
      (build locale (findings ++ findings') (failed ++ failed')) where
  locale := ⟨rfl, rfl⟩
  findings := rfl
  failedChecks := rfl
  passed := by
    rw [Bool.eq_iff_iff]
    simp only [build, Bool.and_eq_true, List.isEmpty_iff, List.append_eq_nil_iff]
    exact and_and_and_comm
  summary := by
    show summarize (findings ++ findings') = _
    rw [summarize_eq]
    refine List.map_congr_left fun code _ => ?_
    rw [count_build, count_build, ← List.count_append, ← List.map_append]
  error := rfl

namespace Linter

variable {m : LanguageModel} {locale : Text} {source : Source} {sink? : Option Sink}

theorem report_append (first second : List Check) :
    (Linter.mk (first ++ second)).report m locale =
      Report.build locale
        ((tally m locale first).findings ++ (tally m locale second).findings)
        ((tally m locale first).failedChecks ++ (tally m locale second).failedChecks) := by
  rw [report, findings_tally_append, failedChecks_tally_append]

/-! ## Checks that break down -/

/-- **A report is that of the same chain without one check, which broke down.** -/
structure Breaks (check : Check) (before after : List Text) (without whole : Report) : Prop where
  /-- The check is named once, in its place. -/
  names : without.failedChecks = before ++ after ∧ whole.failedChecks = before ++ check.name :: after
  /-- Nothing else is different but the verdict, which a named check turns down. -/
  rest : whole = { without with failedChecks := whole.failedChecks, passed := false }

/-- The tally of a chain with a broken check has its name and is else the tally of the chain without it. -/
theorem tally_of_broken {check : Check} {message : Text} (h : check.run m locale = .error message)
    (before after : List Check) :
    tally m locale (before ++ check :: after) =
      { findings := (tally m locale (before ++ after)).findings
        failedChecks := (tally m locale before).failedChecks ++
          check.name :: (tally m locale after).failedChecks } := by
  have hfindings : (tally m locale (before ++ check :: after)).findings =
      (tally m locale (before ++ after)).findings := by
    rw [findings_tally_append, findings_tally_append, tally_cons_of_error h]
  have hfailed : (tally m locale (before ++ check :: after)).failedChecks =
      (tally m locale before).failedChecks ++ check.name :: (tally m locale after).failedChecks := by
    rw [failedChecks_tally_append, tally_cons_of_error h]
  rw [← hfindings, ← hfailed]

theorem breaks_of_error {check : Check} {message : Text} (h : check.run m locale = .error message)
    (before after : List Check) :
    Breaks check (tally m locale before).failedChecks (tally m locale after).failedChecks
      ((Linter.mk (before ++ after)).report m locale)
      ((Linter.mk (before ++ check :: after)).report m locale) := by
  have hwhole : (Linter.mk (before ++ check :: after)).report m locale =
      Report.build locale (tally m locale (before ++ after)).findings
        ((tally m locale before).failedChecks ++ check.name :: (tally m locale after).failedChecks) := by
    rw [report, tally_of_broken h]
  rw [hwhole]
  refine ⟨⟨failedChecks_tally_append before after, rfl⟩, ?_⟩
  simp [report, Report.build]

/-! ## Runs -/

/-- With a willing sink a source that reads as a model yields the report of the model, and the sink, if there is
one, has its findings. -/
theorem lint_yields (hread : source.read locale = .ok m) (hs : Sink.Willing sink?) (checks : List Check)
    (held : List Finding) :
    ((Linter.mk checks).lint sink? held source locale).Yields ((Linter.mk checks).report m locale)
      (if sink?.isSome then (tally m locale checks).findings else []) := by
  have houtcome : ((Linter.mk checks).lintModel sink? held m locale).outcome =
      .ok ((Linter.mk checks).report m locale) := outcome_lintModel hs _ held
  rw [lint_of_read hread]
  exact ⟨houtcome, delivered_lintModel houtcome⟩

/-- **Linting with chains one after the other.** With a willing sink, a source that reads as a model is linted
by every chain. The report of a chain behind another is put together from the reports of the two, and so is
what the sink is handed. A check that breaks down contributes its name alone, wherever it stands in a chain. -/
theorem lint_append (hread : source.read locale = .ok m) (hs : Sink.Willing sink?)
    (held held' : List Finding) :
    (∀ first second : List Check, ∃ r r' whole delivered delivered',
      ((Linter.mk first).lint sink? held source locale).Yields r delivered ∧
      ((Linter.mk second).lint sink? held' source locale).Yields r' delivered' ∧
      ((Linter.mk (first ++ second)).lint sink? held source locale).Yields whole
        (delivered ++ delivered') ∧
      Report.Joins r r' whole) ∧
    ∀ (before after : List Check) (check : Check) (message : Text), check.run m locale = .error message →
      ∃ rBefore rAfter without whole dBefore dAfter delivered,
        ((Linter.mk before).lint sink? held source locale).Yields rBefore dBefore ∧
        ((Linter.mk after).lint sink? held' source locale).Yields rAfter dAfter ∧
        ((Linter.mk (before ++ after)).lint sink? held source locale).Yields without delivered ∧
        ((Linter.mk (before ++ check :: after)).lint sink? held source locale).Yields whole delivered ∧
        Breaks check rBefore.failedChecks rAfter.failedChecks without whole ∧
        ((Linter.mk [check]).lint sink? held source locale).Yields
          (Report.build locale [] [check.name]) [] := by
  have hyields := fun checks held => lint_yields hread hs checks held
  constructor
  · intro first second
    have hwhole := hyields (first ++ second) held
    rw [report_append, findings_tally_append] at hwhole
    refine ⟨_, _, _, _, _, hyields first held, hyields second held', ⟨hwhole.outcome, ?_⟩,
      Report.joins_build locale _ _ _ _⟩
    rw [hwhole.delivered]
    cases sink?.isSome <;> rfl
  · intro before after check message h
    have hwhole := hyields (before ++ check :: after) held
    have halone := hyields [check] held
    have htally : tally m locale [check] = ⟨[], [check.name]⟩ := tally_cons_of_error h []
    rw [report, htally, ite_self] at halone
    have hsame : (tally m locale (before ++ check :: after)).findings =
        (tally m locale (before ++ after)).findings := by rw [tally_of_broken h]
    rw [hsame] at hwhole
    exact ⟨_, _, _, _, _, _, _, hyields before held, hyields after held', hyields (before ++ after) held,
      hwhole, breaks_of_error h before after, halone⟩

/-- A model with one phrase, which starts with a blank. -/
def blankPhrase : LanguageModel := ⟨[("Greeting", ⟨some [" hello"]⟩)], none⟩

/-- A check that breaks down on every model. -/
def broken : Check := ⟨"Broken", fun _ _ => .error "broken"⟩

/-- Between two checks, one of which finds something, a broken check adds its name. -/
theorem lint_append_broken :
    (Source.model blankPhrase).read "en" = .ok blankPhrase ∧ Sink.Willing (some Sink.accepting) ∧
      broken.run blankPhrase "en" = .error "broken" ∧
      ∃ without whole,
        ((Linter.mk ([Check.bracket] ++ [Check.phraseBlank])).lint (some Sink.accepting) []
          (.model blankPhrase) "en").Yields without (outerBlankPhrases blankPhrase "en") ∧
        ((Linter.mk ([Check.bracket] ++ broken :: [Check.phraseBlank])).lint (some Sink.accepting) []
          (.model blankPhrase) "en").Yields whole (outerBlankPhrases blankPhrase "en") ∧
        Breaks broken [] [] without whole := by
  obtain ⟨-, hbroken⟩ := @lint_append blankPhrase "en" (.model blankPhrase) (some Sink.accepting) rfl
    Sink.willing_accepting [] []
  obtain ⟨rBefore, rAfter, without, whole, dBefore, dAfter, delivered, hbefore, hafter, hwithout, hwhole,
    hbreaks, -⟩ := hbroken [Check.bracket] [Check.phraseBlank] broken "broken" rfl
  have hdelivered : delivered = outerBlankPhrases blankPhrase "en" := by
    rw [← hwithout.delivered]
    decide +kernel
  have hnone : rBefore.failedChecks = [] ∧ rAfter.failedChecks = [] := by
    have hb := hbefore.outcome
    have ha := hafter.outcome
    cases hb
    cases ha
    exact ⟨rfl, rfl⟩
  rw [hdelivered] at hwithout hwhole
  rw [hnone.1, hnone.2] at hbreaks
  exact ⟨rfl, Sink.willing_accepting, rfl, without, whole, hwithout, hwhole, hbreaks⟩

end Linter
end IntentLint
