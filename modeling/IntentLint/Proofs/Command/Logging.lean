import IntentLint.Proofs.Command.Formats
import IntentLint.Proofs.Settings.Logging

/-!
# `Proofs.Command.Logging` — a run apart from its log

The log shares standard error with the findings and the errors. What is written there is taken apart here: lines of
the log, notes about the settings file, and messages (`parts`, `run_eq`). The settings of the log decide on the
lines of the log alone. Two runs whose surroundings differ in these settings only end in the same way, write the
same to standard output, and have the same messages (`run_same_but_log`). The log at a higher threshold is what is
left of the log at a lower one.

What the settings files say is compared with references expanded. A value may refer to a variable of the log, and
through this reference the variable decides on more than the log (`run_differs_by_reference`).
-/

namespace IntentLint
namespace Command

/-! ## Parts of standard error -/

/-- A part of what a run writes to standard error. -/
inductive Part where
  /-- The line of an entry of the log, which is this serious. -/
  | log (level : Level) (line : Text)
  /-- A note about the settings file. -/
  | note (line : Text)
  /-- A finding, the error of a locale, or why the command line is refused. -/
  | message (line : Text)

namespace Part

/-- The text of a part. -/
def text : Part → Text
  | .log _ line => line
  | .note line => line
  | .message line => line

/-- A line of the log, with its level. -/
def log? : Part → Option (Level × Text)
  | .log level line => some (level, line)
  | _ => none

/-- A note. -/
def note? : Part → Option Text
  | .note line => some line
  | _ => none

/-- A message. -/
def message? : Part → Option Text
  | .message line => some line
  | _ => none

end Part

/-- How the log is written, for a terminal or else. -/
def formatOf (debug : Bool) : LogFormat := if debug then .console else .document

/-- What is written for an event, if anything is. -/
def part? (format : LogFormat) (threshold : Level) (time : Text) : Event → Option Part
  | .delivered finding => some (.message finding.line.line)
  | .logged entry =>
    if entry.level.passes threshold then some (.log entry.level (entry.line format time).line) else none
  | .skipped line => some (.note (Settings.skippedMessage line).line)

/-- The message about the error of a locale. -/
def errorPart? (report : Report) : Option Part :=
  if report.hasError then some (.message (errorMark ++ report.error.getD []).line) else none

/-- What is written at the end: the errors of locales, where they are not in a document. -/
def closing (format : OutputFormat) : Except Failure (Entries Text Report) → List Part
  | .ok reports => if format = .json then [] else reports.filterMap fun e => errorPart? e.2
  | .error _ => []

/-- What is written to standard output when options lead to a run. -/
def printed (format : OutputFormat) : Except Failure (Entries Text Report) → Text
  | .ok reports => if format = .json then (Json.render .block (document reports)).line else []
  | .error _ => []

/-- What a run writes to standard error, part by part. -/
def parts (linter : Linter) (read : Reader) (around : Surroundings) (debug : Bool) (threshold : Level)
    (time : Text) (argv : List Text) : List Part :=
  match Options.parse argv with
  | .error .help => []
  | .error (.misuse fault) =>
    [.message (usage (columns around.environment) ++ name ++ ": error: " ++ fault.message.line)]
  | .ok options =>
    let run := linting linter read around options
    run.events.filterMap (part? (formatOf debug) threshold time) ++ closing options.format run.outcome

variable {linter : Linter} {read : Reader} {around around' : Surroundings} {debug debug' : Bool}
  {threshold threshold' : Level} {time : Text} {argv : List Text} {options : Options}

/-- The parts of events are what is written for them. -/
theorem flatMap_text_part? (format : LogFormat) (threshold : Level) (time : Text) (events : List Event) :
    (events.filterMap (part? format threshold time)).flatMap Part.text =
      events.flatMap (eventText (entryText format threshold time)) := by
  induction events with
  | nil => rfl
  | cons event rest ih =>
    rw [List.filterMap_cons, List.flatMap_cons, ← ih]
    cases event with
    | logged entry =>
      by_cases h : entry.level.passes threshold = true
      · simp [part?, eventText, entryText, h, Part.text]
      · simp [part?, eventText, entryText, h]
    | _ => rfl

theorem flatMap_text_errorPart? (reports : Entries Text Report) :
    (reports.filterMap fun e => errorPart? e.2).flatMap Part.text = errorLines reports := by
  unfold errorLines
  induction reports with
  | nil => rfl
  | cons e rest ih =>
    rw [List.filterMap_cons, List.flatMap_cons, ← ih]
    by_cases h : e.2.hasError = true <;> simp [errorPart?, h, Part.text]

/-- **What a run comes to that options lead to**, where the settings of the log are fit. -/
theorem run_eq (hparse : Options.parse argv = .ok options) (hlog : Settings.ChoosesLog around debug threshold) :
    run linter read around time argv =
      { outcome := (linting linter read around options).outcome.map (exitCode options.strict)
        stdout := printed options.format (linting linter read around options).outcome
        stderr := (parts linter read around debug threshold time argv).flatMap Part.text } := by
  unfold run parts linting
  simp only [hparse, readSettings_eq]
  cases hload : Settings.load around with
  | error error =>
    simp only [Except.map, Except.mapError, Run.error_bind, closing, printed, List.append_nil,
      flatMap_text_part?, flatMap_eventText_skipped]
  | ok settings =>
    obtain ⟨rfl, hlevel⟩ := hlog.of_load hload
    simp only [Except.map, Except.mapError, Run.ok_bind, output, hlevel, List.flatMap_append, flatMap_text_part?,
      flatMap_eventText_skipped, formatOf]
    cases (lint linter read options settings).outcome with
    | error failure => simp only [closing, printed, List.flatMap_nil, List.append_nil]
    | ok reports => cases options.format <;> simp [closing, printed, flatMap_text_errorPart?]

theorem stderr_run (hlog : Settings.ChoosesLog around debug threshold) (linter : Linter) (read : Reader)
    (time : Text) (argv : List Text) :
    (run linter read around time argv).stderr =
      (parts linter read around debug threshold time argv).flatMap Part.text := by
  cases hparse : Options.parse argv with
  | ok options => rw [run_eq hparse hlog]
  | error stop => cases stop <;> simp [run, parts, hparse, Part.text]

/-! ## Linting apart from the log -/

/-- What is linted is a matter of the directory and the locales. -/
theorem lint_congr (modelsDir : Text) (locales : List Text) (debug debug' : Bool) (level level' : Text) :
    lint linter read options ⟨modelsDir, locales, debug, level⟩ =
      lint linter read options ⟨modelsDir, locales, debug', level'⟩ := by
  unfold lint
  cases options.scope? <;> rfl

/-- **The same happens in both surroundings**, but for what is passed over in the settings file. -/
theorem exists_linting_eq (h : Settings.SameButLog around around')
    (hlog : Settings.ChoosesLog around debug threshold) (hlog' : Settings.ChoosesLog around' debug' threshold')
    (linter : Linter) (read : Reader) (options : Options) :
    ∃ rest : Run (Entries Text Report),
      linting linter read around options =
        ⟨(Settings.skippedLines around).map .skipped ++ rest.events, rest.outcome⟩ ∧
      linting linter read around' options =
        ⟨(Settings.skippedLines around').map .skipped ++ rest.events, rest.outcome⟩ := by
  obtain ⟨others, level, level', -, -, hload, hload'⟩ := h.exists_load_eq hlog hlog'
  unfold linting
  rw [readSettings_eq, readSettings_eq, hload, hload']
  cases others with
  | error error =>
    refine ⟨Run.fail (.settings error), ?_, ?_⟩ <;>
      simp only [Except.map, Except.mapError, Run.error_bind, Run.fail, List.append_nil]
  | ok others =>
    refine ⟨lint linter read options ⟨others.1, others.2, debug, level⟩, rfl, ?_⟩
    rw [lint_congr others.1 others.2 debug debug' level level']
    rfl

/-! ## Parts of the same events -/

/-- What is no line of the log does not depend on how the log is written. -/
theorem filterMap_part?_congr {α : Type} {select : Part → Option α}
    (hselect : ∀ level line, select (.log level line) = none) (format format' : LogFormat)
    (threshold threshold' : Level) (time : Text) (events : List Event) :
    (events.filterMap (part? format threshold time)).filterMap select =
      (events.filterMap (part? format' threshold' time)).filterMap select := by
  rw [List.filterMap_filterMap, List.filterMap_filterMap]
  refine List.filterMap_congr fun event _ => ?_
  cases event with
  | logged entry =>
    -- a line of the log is not selected, whether it is there or not
    have hnone : ∀ format threshold, (part? format threshold time (.logged entry)).bind select = none := by
      intro format threshold
      simp only [part?]
      split
      · exact hselect ..
      · rfl
    rw [hnone, hnone]
  | _ => rfl

/-- An entry that passes a threshold passes every lower one. -/
theorem passes_of_passes (h : threshold.rank ≤ threshold'.rank) {level : Level}
    (hpasses : level.passes threshold' = true) : level.passes threshold = true := by
  simp only [Level.passes, decide_eq_true_eq] at *
  omega

/-- **The log at a higher threshold is what is left of the log at a lower one.** -/
theorem filterMap_log?_part? (h : threshold.rank ≤ threshold'.rank) (format : LogFormat) (time : Text)
    (events : List Event) :
    (events.filterMap (part? format threshold' time)).filterMap Part.log? =
      ((events.filterMap (part? format threshold time)).filterMap Part.log?).filter
        fun line => line.1.passes threshold' := by
  rw [List.filterMap_filterMap, List.filterMap_filterMap, List.filter_filterMap]
  refine List.filterMap_congr fun event _ => ?_
  cases event with
  | logged entry =>
    by_cases hpasses : entry.level.passes threshold' = true
    · simp [part?, Part.log?, Option.filter_some, hpasses, passes_of_passes h hpasses]
    · simp only [part?, if_neg hpasses]
      split
      · simp [Part.log?, Option.filter_some, hpasses]
      · rfl
  | _ => rfl

/-- The notes about lines that are passed over. -/
def notes (lines : List Nat) : List Part := lines.map fun line => .note (Settings.skippedMessage line).line

theorem filterMap_part?_skipped (format : LogFormat) (threshold : Level) (time : Text) (lines : List Nat) :
    (lines.map Event.skipped).filterMap (part? format threshold time) = notes lines := by
  unfold notes
  rw [List.filterMap_map, ← List.filterMap_eq_map]
  rfl

theorem filterMap_notes {α : Type} {select : Part → Option α} (hselect : ∀ line, select (.note line) = none)
    (lines : List Nat) : (notes lines).filterMap select = [] := by
  unfold notes
  rw [List.filterMap_map, List.filterMap_eq_nil_iff]
  exact fun line _ => hselect _

theorem filterMap_closing {α : Type} {select : Part → Option α} (hselect : ∀ line, select (.message line) = none)
    (format : OutputFormat) (outcome : Except Failure (Entries Text Report)) :
    (closing format outcome).filterMap select = [] := by
  cases outcome with
  | error failure => rfl
  | ok reports =>
    simp only [closing]
    split
    · rfl
    · rw [List.filterMap_filterMap, List.filterMap_eq_nil_iff]
      intro e _
      simp only [errorPart?]
      split
      · exact hselect _
      · rfl

/-- A run writes its notes, then what is written for its events, and then the errors. -/
theorem parts_eq {rest : Run (Entries Text Report)} (hparse : Options.parse argv = .ok options)
    (hlinting : linting linter read around options =
      ⟨(Settings.skippedLines around).map .skipped ++ rest.events, rest.outcome⟩) :
    parts linter read around debug threshold time argv =
      notes (Settings.skippedLines around) ++
        (rest.events.filterMap (part? (formatOf debug) threshold time) ++ closing options.format rest.outcome) := by
  simp only [parts, hparse, hlinting, List.filterMap_append, filterMap_part?_skipped, List.append_assoc]

/-! ## Two runs -/

/-- **What the settings of the log decide on.** In surroundings that differ in these settings only, a run ends in
the same way, writes the same to standard output, and writes the same messages to standard error; the notes are the
same, too, when the same lines of the settings files are passed over. If the log is written in the same format, its
lines at the higher threshold are those at the lower one whose entries pass. -/
theorem run_same_but_log (h : Settings.SameButLog around around')
    (hlog : Settings.ChoosesLog around debug threshold) (hlog' : Settings.ChoosesLog around' debug' threshold')
    (linter : Linter) (read : Reader) (time : Text) (argv : List Text) :
    let run around := run linter read around time argv
    let written := parts linter read around debug threshold time argv
    let written' := parts linter read around' debug' threshold' time argv
    (run around).stderr = written.flatMap Part.text ∧ (run around').stderr = written'.flatMap Part.text ∧
    (run around).outcome = (run around').outcome ∧ (run around).stdout = (run around').stdout ∧
    written.filterMap Part.message? = written'.filterMap Part.message? ∧
    (Settings.skippedLines around = Settings.skippedLines around' →
      written.filterMap Part.note? = written'.filterMap Part.note?) ∧
    (debug = debug' → threshold.rank ≤ threshold'.rank →
      written'.filterMap Part.log? = (written.filterMap Part.log?).filter fun line => line.1.passes threshold') := by
  intro run written written'
  refine ⟨stderr_run hlog linter read time argv, stderr_run hlog' linter read time argv, ?_⟩
  cases hparse : Options.parse argv with
  | error stop =>
    -- nothing of the surroundings is read but the width of the terminal
    have hcolumns : columns around.environment = columns around'.environment := by
      have hname : Text.lower "COLUMNS" ∉ Settings.logNames := by decide +kernel
      unfold columns
      rw [← Settings.get?_besides hname, h.environment, Settings.get?_besides hname]
    have hrun : run around = run around' := by
      cases stop <;> simp only [run, Command.run, hparse, hcolumns]
    have hwritten : written = written' := by
      cases stop <;> simp only [written, written', parts, hparse, hcolumns]
    have hquiet : written'.filterMap Part.log? = [] := by
      cases stop <;> simp [written', parts, hparse, Part.log?]
    rw [hrun, hwritten, hquiet]
    exact ⟨rfl, rfl, rfl, fun _ => rfl, fun _ _ => rfl⟩
  | ok options =>
    obtain ⟨rest, hlinting, hlinting'⟩ := exists_linting_eq h hlog hlog' linter read options
    have hrun : run around = _ := run_eq hparse hlog
    have hrun' : run around' = _ := run_eq hparse hlog'
    have hwritten : written = _ := parts_eq hparse hlinting
    have hwritten' : written' = _ := parts_eq hparse hlinting'
    rw [hrun, hrun', hlinting, hlinting', hwritten, hwritten']
    refine ⟨rfl, rfl, ?_⟩
    simp only [List.filterMap_append]
    refine ⟨?_, fun hskipped => ?_, ?_⟩
    · rw [filterMap_notes fun _ => rfl, filterMap_notes fun _ => rfl,
        filterMap_part?_congr (fun _ _ => rfl) _ (formatOf debug') _ threshold']
    · rw [hskipped, filterMap_part?_congr (fun _ _ => rfl) _ (formatOf debug') _ threshold']
    · rintro rfl hrank
      rw [filterMap_notes fun _ => rfl, filterMap_notes fun _ => rfl, filterMap_closing fun _ => rfl,
        filterMap_log?_part? hrank]
      simp only [List.nil_append, List.append_nil]

/-- Surroundings in which everything is logged. -/
def talkative : Surroundings := ⟨[("LOG_LEVEL", "debug")], none⟩

/-- Surroundings in which only errors are logged, by a settings file. -/
def taciturn : Surroundings := ⟨[("DEBUG", "no")], some (Utf8.encode "LOG_LEVEL=error\n")⟩

/-- One finding is written in both surroundings, and of three lines of the log none is left. -/
theorem run_same_but_log_blankModel :
    Settings.SameButLog talkative taciturn ∧ Settings.ChoosesLog talkative false .debug ∧
      Settings.ChoosesLog taciturn false .error ∧
      ((parts Linter.standard blankFiles talkative false .debug [] []).filterMap Part.log?).map (·.1) =
        [.info, .debug, .info] ∧
      (parts Linter.standard blankFiles taciturn false .error [] []).filterMap Part.log? = [] ∧
      (parts Linter.standard blankFiles taciturn false .error [] []).filterMap Part.message? = [blankLine.line] := by
  have hsame : Settings.SameButLog talkative taciturn :=
    Settings.sameButLog_of_plain rfl rfl rfl (by decide +kernel) (by decide +kernel) rfl
  have hlog : Settings.ChoosesLog talkative false .debug := by
    rintro inFile ⟨⟩
    exact ⟨rfl, rfl⟩
  have hlog' : Settings.ChoosesLog taciturn false .error := by
    rintro inFile ⟨⟩
    exact ⟨rfl, rfl⟩
  have hlevels : ((parts Linter.standard blankFiles talkative false .debug [] []).filterMap Part.log?).map (·.1) =
      [.info, .debug, .info] := by decide +kernel
  obtain ⟨-, -, -, -, hmessages, -, hlines⟩ := run_same_but_log hsame hlog hlog' Linter.standard blankFiles [] []
  refine ⟨hsame, hlog, hlog', hlevels, ?_, ?_⟩
  · rw [hlines rfl (by decide)]
    decide +kernel
  · rw [← hmessages]
    decide +kernel

/-- Surroundings with a word for whether the log is written for a terminal, and a settings file that names the
directory by this word. -/
def referring (word : Text) : Surroundings :=
  ⟨[("DEBUG", word)], some (Utf8.encode "MODELS_DIR=m$\x7bDEBUG\x7d\n")⟩

/-- Files of which one holds a model. -/
def onlyZero : Reader := fun path =>
  if path = Text.ofString "m0/en.json" then .ok (Utf8.encode Batch.plainModel) else .error .notFound

/-- **Through a reference a variable of the log decides on how a run ends.** The settings file is the same in both
surroundings, the environments differ in this variable only, and its value is fit in both. -/
theorem run_differs_by_reference :
    (referring "0").settingsFile = (referring "1").settingsFile ∧
      Settings.besides (referring "0").environment = Settings.besides (referring "1").environment ∧
      Settings.readBoolean "0" = .ok false ∧ Settings.readBoolean "1" = .ok true ∧
      (run Linter.standard onlyZero (referring "0") [] []).outcome = .ok .ok ∧
      (run Linter.standard onlyZero (referring "1") [] []).outcome = .ok .failed := by
  refine ⟨rfl, rfl, rfl, rfl, ?_, ?_⟩
  · decide +kernel
  · decide +kernel

end Command
end IntentLint
