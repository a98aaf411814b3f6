import IntentLint.Proofs.Batch.Loading
import IntentLint.Proofs.Batch.Visits
import Mathlib.Data.List.Forall2

/-!
# `Proofs.Batch.Log` — the log of a batch

A batch that completes has a log of a fixed shape: the entry of its launch, one block for each place on its list,
and the entry at its end. A block is determined by the report of its locale but for the messages of the checks
that broke down (`LogBlock`), since a visit logs either the one error of its locale or its breakdowns and then
what it came to (`logBlock_of_mem_visits`).

The blocks follow the list, and the entry at the end counts the reports, one for each locale
(`completion_of_reports`). So a locale that is listed twice has two blocks and is counted once.
-/

namespace IntentLint
namespace Batch

/-- What is logged for a place on the list, by the report of its locale. -/
inductive LogBlock (checks : List Text) (locale : Text) (r : Report) : List LogEntry → Prop
  /-- The model could not be linted, and the log has the error of the report. -/
  | failed {message : Text} (error : r.error = some message) :
    LogBlock checks locale r [.lintFailed locale message]
  /-- The checks that broke down, in the order of the report, and then what the report comes to. -/
  | checked {broken : List (Text × Text)} (error : r.error = none) (names : broken.map (·.1) = r.failedChecks) :
    LogBlock checks locale r
      (broken.map (fun b => .checkFailed b.1 locale b.2) ++
        [.checked locale r.passed r.summary r.findings.length checks])

/-- The block is the one for the report that is kept for the locale. -/
def KeptBlock (checks : List Text) (reports : Entries Text Report) (locale : Text) (block : List LogEntry) : Prop :=
  ∃ r, Entries.get? locale reports = some r ∧ LogBlock checks locale r block

variable {batch : Batch} {held : List Finding} {locale : Text} {locales : List Text}

/-- **A visit that comes to a report logs a block for it.** -/
theorem logBlock_of_mem_visits (hs : Sink.NoLintError batch.sink?) {v : Text × Run Report} {r : Report}
    (hv : v ∈ batch.visits held locales) (h : v.2.outcome = .ok r) :
    LogBlock batch.linter.names.eraseDups v.1 r v.2.logged := by
  obtain ⟨held', hrun⟩ := exists_held_of_mem_visits hv
  rw [hrun] at h ⊢
  rcases lintLocale_cases hs h with ⟨m, -, rfl, hevents⟩ | ⟨error, -, rfl, hevents⟩
  · obtain ⟨broken, hnames, hentries⟩ := @Linter.exists_messages_breakdowns m v.1 batch.linter.checks
    -- the chain logs its breakdowns, and the run over the model what it came to
    rw [hevents, Run.logged_eq, List.filterMap_append, Linter.entry?_chainEvents, hentries]
    exact LogBlock.checked rfl hnames
  · rw [hevents]
    exact LogBlock.failed rfl

/-- The entry at the end of a run, in terms of the locales that the reports are kept for. -/
theorem completion_of_reports {reports : Entries Text Report} (hnodup : (Entries.keys reports).Nodup)
    (herrors : ∀ e ∈ reports, e.2.hasError = e.2.error.isSome) :
    completion reports =
      .lintComplete (Entries.keys reports).length
        ((Entries.keys reports).filter fun locale => ((Entries.get? locale reports).bind Report.error).isSome)
        (reports.foldr (fun e n => e.2.findings.length + n) 0) := by
  have hfailed : (reports.filter (·.2.hasError)).map (·.1) =
      (Entries.keys reports).filter fun locale =>
        ((Entries.get? locale reports).bind Report.error).isSome := by
    have hsame : ∀ e ∈ reports,
        e.2.hasError = ((Entries.get? e.1 reports).bind Report.error).isSome := by
      intro e he
      rw [Entries.get?_of_mem hnodup he]
      exact herrors e he
    unfold Entries.keys
    rw [List.filter_map, List.filter_congr hsame]
    rfl
  unfold completion
  rw [hfailed, Entries.keys, List.length_map]

/-- **The log of a batch that completes.** It has the entry of the launch, a block for each place on the list in
the order of the list, and the entry at the end. Each block is that of the report which is kept for its locale.
The entry at the end counts each locale once, names those whose report has an error where the list first has
them, and sums up the findings of the reports. -/
theorem lintIn_logged {around : Surroundings} {settings : Settings} {sink? : Option Sink}
    (hload : Settings.load around = .ok settings) (hs : Sink.NoLintError sink?) (read : Reader)
    (linter : Linter) (scope : Scope) {reports : Entries Text Report}
    (h : (lintIn around read linter sink? scope).outcome = .ok reports) :
    let listed := scope.localesUnder settings
    Entries.keys reports = listed.eraseDups ∧
      ∃ blocks : List (List LogEntry),
        List.Forall₂ (KeptBlock linter.names.eraseDups reports) listed blocks ∧
        (lintIn around read linter sink? scope).logged =
          .launching listed (scope.modelsDirUnder settings) :: (blocks.flatten ++
            [.lintComplete listed.eraseDups.length
              (listed.eraseDups.filter fun locale =>
                ((Entries.get? locale reports).bind Report.error).isSome)
              (reports.foldr (fun e n => e.2.findings.length + n) 0)]) := by
  intro listed
  rw [outcome_lintIn hload] at h
  have hbatch : Sink.NoLintError (ofScope read linter sink? scope settings).sink? := hs
  obtain ⟨hlocales, hkeys, hkept⟩ := visits_of_lintAll hbatch h
  have hnodup : (Entries.keys reports).Nodup := hkeys ▸ Entries.nodup_eraseDups listed
  have herrors : ∀ e ∈ reports, e.2.hasError = e.2.error.isSome :=
    fun e he => hasError_eq_isSome (mem_of_lintAll hbatch h he).2
  refine ⟨hkeys, ((ofScope read linter sink? scope settings).visits [] listed).map (·.2.logged), ?_, ?_⟩
  · -- the places on the list are those of the visits, and the blocks are what is logged in them
    have hplaces : List.Forall₂ (KeptBlock linter.names.eraseDups reports)
        (((ofScope read linter sink? scope settings).visits [] listed).map (·.1))
        (((ofScope read linter sink? scope settings).visits [] listed).map (·.2.logged)) := by
      rw [List.forall₂_map_left_iff, List.forall₂_map_right_iff, List.forall₂_same]
      intro v hv
      obtain ⟨r, hr, hget⟩ := hkept v hv
      exact ⟨r, hget, logBlock_of_mem_visits hbatch hv hr⟩
    rw [hlocales] at hplaces
    exact hplaces
  · rw [logged_lintIn hload, logged_lintAll h, completion_of_reports hnodup herrors, hkeys,
      ← List.flatMap_def]
    rfl

/-- A linter with a check that breaks down on every model, before one that finds blanks. -/
def brokenFirst : Linter := ⟨[⟨"Broken", fun _ _ => .error "broken"⟩, Check.phraseBlank]⟩

/-- **A locale that is listed twice has two blocks and is counted once**, and a locale without a file has a block
of one entry. -/
theorem lintIn_logged_blankEnglish :
    Settings.load ⟨[], none⟩ = .ok Settings.default ∧ Sink.NoLintError none ∧
      ∃ reports, ∃ blocks : List (List LogEntry),
        (lintIn ⟨[], none⟩ blankEnglish brokenFirst none ⟨some ["en", "de", "en"], none⟩).outcome = .ok reports ∧
        Entries.keys reports = [("en" : Text), ("de" : Text)] ∧ blocks.length = 3 ∧
        (lintIn ⟨[], none⟩ blankEnglish brokenFirst none ⟨some ["en", "de", "en"], none⟩).logged =
          .launching ["en", "de", "en"] "models" :: (blocks.flatten ++ [.lintComplete 2 ["de"] 1]) := by
  have hload : Settings.load ⟨[], none⟩ = .ok Settings.default := rfl
  have hs : Sink.NoLintError none := Sink.willing_none.noLintError
  have hreports : (lintIn ⟨[], none⟩ blankEnglish brokenFirst none ⟨some ["en", "de", "en"], none⟩).outcome =
      .ok [("en", brokenFirst.report ⟨[("A", ⟨some [" x"]⟩)], none⟩ "en"),
        ("de", Report.failed "de"
          (some (LintError.message ⟨"de", .unreadableFile "models/de.json" (.unopened .notFound)⟩)))] := by
    decide +kernel
  obtain ⟨hkeys, blocks, hblocks, hlogged⟩ := lintIn_logged hload hs blankEnglish brokenFirst _ hreports
  refine ⟨hload, hs, _, blocks, hreports, hkeys, hblocks.length_eq.symm, ?_⟩
  rw [hlogged]
  refine congrArg (fun ending => LogEntry.launching ["en", "de", "en"] "models" :: (blocks.flatten ++ [ending])) ?_
  decide +kernel

end Batch
end IntentLint
