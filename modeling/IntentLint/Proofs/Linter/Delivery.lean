import IntentLint.Bench
import IntentLint.Proofs.Linter.Tally

/-!
# `Proofs.Linter.Delivery` — what a sink is handed, and what its refusal leaves behind

A sink that refuses nothing is handed the findings of the report, in their order. A sink that refuses one cuts
the run off there: it was handed the findings before that one, the run ends with its failure, and it is the
same run whatever checks stand after the one that found it (`Linter.CutOff`).

Between runs only the checks and what the sink holds are kept. So a run that was cut off is not felt by the
runs after it, as long as their sinks are willing (`Bench.outcomes_runs`).
-/

namespace IntentLint

/-! ## Runs after one another -/

/-- With a willing sink a source comes to what it comes to without one, whatever the sink holds. -/
theorem Linter.outcome_lint_of_willing {sink? : Option Sink} (hs : Sink.Willing sink?) (linter : Linter)
    (held : List Finding) (source : Source) (locale : Text) :
    (linter.lint sink? held source locale).outcome = (linter.lint none [] source locale).outcome := by
  cases hread : source.read locale with
  | ok m =>
    rw [lint_of_read hread, lint_of_read hread, outcome_lintModel hs, outcome_lintModel Sink.willing_none]
  | error failure =>
    unfold lint
    rw [hread, Run.ofExcept_error_bind, Run.ofExcept_error_bind]

namespace Request

/-- The sink of a request, if it has one, refuses nothing. -/
def Willing : Request → Prop
  | .lint sink? _ _ => Sink.Willing sink?
  | _ => True

end Request

namespace Bench

/-- A run leaves the checks as they are. -/
theorem linter_after_lint (bench : Bench) (sink? : Option Sink) (source : Source) (locale : Text) :
    (bench.after (.lint sink? source locale)).linter = bench.linter := rfl

/-- What a request makes of the checks does not depend on what the sink holds. -/
theorem linter_after_congr {bench bench' : Bench} (h : bench.linter = bench'.linter) (request : Request) :
    (bench.after request).linter = (bench'.after request).linter := by
  cases request with
  | add check => exact congrArg (·.add check) h
  | remove name => exact congrArg (·.remove name) h
  | lint sink? source locale => exact h

/-- **Requests with willing sinks lead to the same outcomes, whatever was delivered before them.** -/
theorem outcomes_runs {bench bench' : Bench} (h : bench.linter = bench'.linter) {requests : List Request}
    (hs : ∀ request ∈ requests, request.Willing) :
    (bench.runs requests).map Run.outcome = (bench'.runs requests).map Run.outcome := by
  induction requests generalizing bench bench' with
  | nil => rfl
  | cons request rest ih =>
    have hrest := ih (linter_after_congr h request) fun r hr => hs r (List.mem_cons_of_mem _ hr)
    have hfirst : ((bench.run? request).toList).map Run.outcome =
        ((bench'.run? request).toList).map Run.outcome := by
      cases request with
      | add check => rfl
      | remove name => rfl
      | lint sink? source locale =>
        have hwilling : Sink.Willing sink? := hs _ List.mem_cons_self
        simp only [run?, Option.toList_some, List.map_cons, List.map_nil,
          Linter.outcome_lint_of_willing hwilling, h]
    unfold runs
    rw [List.map_append, List.map_append, hfirst, hrest]

end Bench

/-! ## Runs that are cut off -/

namespace Linter

variable {linter : Linter} {sink : Sink} {held accepted later : List Finding} {source : Source}
  {locale : Text} {m : LanguageModel} {f : Finding} {failure : Failure}

/-- **A run over a source that a refusal cuts off.** The sink accepted some findings of the model in it and
refused the next one. -/
structure CutOff (linter : Linter) (sink : Sink) (held : List Finding) (source : Source) (locale : Text)
    (m : LanguageModel) (accepted : List Finding) (f : Finding) (failure : Failure) : Prop where
  fails : (linter.lint (some sink) held source locale).outcome = .error failure
  delivers : (linter.lint (some sink) held source locale).delivered = accepted
  /-- The refused finding comes from a check of the chain. The checks before it ran, and have logged their
  breakdowns; the run would be the same if the checks after it were others. -/
  stops : ∃ before check after found more, linter.checks = before ++ check :: after ∧
    check.run m locale = .ok (found ++ f :: more) ∧ accepted = (tally m locale before).findings ++ found ∧
    (linter.lint (some sink) held source locale).logged = breakdowns m locale before ∧
    ∀ others, (Linter.mk (before ++ check :: others)).lint (some sink) held source locale =
      linter.lint (some sink) held source locale
  /-- The log does not say that the model went through the checks. -/
  incomplete : ∀ entry ∈ (linter.lint (some sink) held source locale).logged,
    entry.event ≠ "validation_complete"
  keeps_checks : ((Bench.mk linter held).after (.lint (some sink) source locale)).linter = linter
  /-- What is asked for afterwards, of willing sinks, comes to what it would have come to without the run. -/
  not_felt : ∀ requests : List Request, (∀ request ∈ requests, request.Willing) →
    (((Bench.mk linter held).after (.lint (some sink) source locale)).runs requests).map Run.outcome =
      ((Bench.mk linter held).runs requests).map Run.outcome

/-- An entry of a breakdown is about one check, not about the end of all. -/
theorem event_of_mem_breakdowns {checks : List Check} {entry : LogEntry}
    (h : entry ∈ breakdowns m locale checks) : entry.event ≠ "validation_complete" := by
  obtain ⟨check, -, hentry⟩ := List.mem_filterMap.mp h
  unfold Check.breakdown? at hentry
  cases hc : check.run m locale with
  | ok findings =>
    rw [hc] at hentry
    cases hentry
  | error message =>
    rw [hc] at hentry
    cases hentry
    show ("validator_failed" : Text) ≠ "validation_complete"
    decide

/-- A sink that accepts the first findings of a report and refuses the next one cuts the run off. -/
theorem cutOff_of_refusal (hread : source.read locale = .ok m)
    (h : (linter.report m locale).findings = accepted ++ f :: later)
    (htakes : Sink.Takes (some sink) held accepted) (hf : sink (held ++ accepted) f = .error failure) :
    CutOff linter sink held source locale m accepted f failure := by
  obtain ⟨before, check, after, found, more, hchecks, hrun, haccepted, hmodel⟩ :=
    exists_lintModel_of_refusal h htakes hf
  -- the run is known event by event, whatever stands after the check, and the rest is read off it
  have hlint : ∀ others, (Linter.mk (before ++ check :: others)).lint (some sink) held source locale =
      ⟨chainEvents (some sink) m locale before ++ found.map .delivered, .error failure⟩ := by
    intro others
    rw [lint_of_read hread, hmodel others]
  have hself : linter.lint (some sink) held source locale =
      ⟨chainEvents (some sink) m locale before ++ found.map .delivered, .error failure⟩ := by
    rw [← hlint after, ← hchecks]
  have hlogged : (linter.lint (some sink) held source locale).logged = breakdowns m locale before := by
    rw [hself, Run.logged_eq, List.filterMap_append, entry?_chainEvents]
    simp [Event.entry?, Function.comp_def]
  refine
    { fails := by rw [hself]
      delivers := ?_
      stops := ⟨before, check, after, found, more, hchecks, hrun, haccepted, hlogged, fun others => ?_⟩
      incomplete := fun entry hentry => event_of_mem_breakdowns (hlogged ▸ hentry)
      keeps_checks := rfl
      not_felt := fun requests hs => Bench.outcomes_runs (Bench.linter_after_lint _ _ _ _) hs }
  · rw [hself, haccepted, Run.delivered_eq, List.filterMap_append, finding?_chainEvents]
    simp [Event.finding?, Function.comp_def]
  · rw [hlint others, hself]

/-- **A sink is handed the findings of the report, up to the first that it refuses.** A source that reads as a
model has a report, which a run without a sink ends with. With a sink that takes its findings the run ends with
the same report, and all findings were delivered. With a sink that refuses one of them, the run is cut off
there. -/
theorem lint_delivers_findings (hread : source.read locale = .ok m) (linter : Linter) (sink : Sink)
    (held : List Finding) :
    ∃ r, (linter.lint none [] source locale).outcome = .ok r ∧
      (Sink.Takes (some sink) held r.findings →
        (linter.lint (some sink) held source locale).outcome = .ok r ∧
          (linter.lint (some sink) held source locale).delivered = r.findings) ∧
      ∀ accepted f later failure, r.findings = accepted ++ f :: later →
        Sink.Takes (some sink) held accepted → sink (held ++ accepted) f = .error failure →
          CutOff linter sink held source locale m accepted f failure := by
  refine ⟨linter.report m locale, ?_, ?_, ?_⟩
  · rw [lint_of_read hread, outcome_lintModel Sink.willing_none]
  · intro htakes
    have houtcome : (linter.lintModel (some sink) held m locale).outcome = .ok (linter.report m locale) := by
      rw [lintModel_of_takes htakes]
    rw [lint_of_read hread]
    refine ⟨houtcome, ?_⟩
    rw [delivered_lintModel houtcome]
    rfl
  · intro accepted f later failure hfindings htakes hf
    exact cutOff_of_refusal hread hfindings htakes hf

/-- A phrase that starts with a blank and lacks a brace. -/
def wrongPhrase : LanguageModel.Phrase := ⟨"Greeting", " hello\x7d"⟩

/-- A model with this phrase alone. -/
def twiceWrong : LanguageModel := ⟨[(wrongPhrase.intent, ⟨some [wrongPhrase.text]⟩)], none⟩

/-- The sink has room for one of two findings: the first was delivered, and the second ends the run. -/
theorem lint_delivers_to_full_sink :
    (Source.model twiceWrong).read "en" = .ok twiceWrong ∧
      (standard.lint (some (Sink.holding 1 "full")) [] (.model twiceWrong) "en").outcome =
        .error (.refused "full") ∧
      (standard.lint (some (Sink.holding 1 "full")) [] (.model twiceWrong) "en").delivered =
        [wrongPhrase.outerBlank "en"] := by
  obtain ⟨r, hr, -, hcut⟩ := @lint_delivers_findings (.model twiceWrong) "en" twiceWrong rfl standard
    (Sink.holding 1 "full") []
  have hfindings : r.findings =
      [wrongPhrase.outerBlank "en"] ++ wrongPhrase.bracket "en" .missingOpening :: [] := by
    rw [lint_model, outcome_lintModel Sink.willing_none] at hr
    cases hr
    decide +kernel
  have htakes : Sink.Takes (some (Sink.holding 1 "full")) [] [wrongPhrase.outerBlank "en"] :=
    Sink.takes_cons_iff.mpr ⟨rfl, Sink.takes_nil⟩
  have hrun := hcut _ _ _ (.refused "full") hfindings htakes rfl
  exact ⟨rfl, hrun.fails, hrun.delivers⟩

end Linter
end IntentLint
