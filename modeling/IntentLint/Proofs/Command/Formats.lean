import IntentLint.Proofs.Batch.Isolation
import IntentLint.Proofs.Batch.Visits
import IntentLint.Proofs.Command.ExitCode
import IntentLint.Proofs.Json.Parts

/-!
# `Proofs.Command.Formats` — the same run in text format and in JSON format

In text format findings are lines that are written while locales are linted, and errors are lines at the end.
In JSON format both are read off one document of reports. The two runs end in the same way
(`outcome_run_congr`), and the errors are those of the document, in its order. The lines of findings follow the
list of locales, and the document has each locale once: a locale that is listed again is written again.
-/

namespace IntentLint
namespace Command

/-! ## Reading documents -/

/-- The lines of the findings that the document of a report lists. -/
def linesIn (report : Json) : List Text :=
  (report.field "warnings").items.filterMap fun finding =>
    (finding.field "message").text?.map (Finding.mark ++ ·)

/-- The error that the document of a report gives, if it gives one. -/
def errorIn? (report : Json) : Option Text := (report.field "error").text?

theorem message_of_finding (f : Finding) : (f.toJson.field "message").text? = some f.message := rfl

/-- The document of a report lists its findings. -/
theorem linesIn_toJson (r : Report) : linesIn r.toJson = r.lines := by
  have hitems : (r.toJson.field "warnings").items = r.findings.map Finding.toJson := rfl
  unfold linesIn Report.lines
  rw [hitems, List.filterMap_map]
  simp [Function.comp_def, message_of_finding, Finding.line]

/-- The document of a report gives its error. -/
theorem errorIn?_toJson (r : Report) : errorIn? r.toJson = r.error := by
  have hfield : r.toJson.field "error" = (r.error.map Json.text).getD .null := rfl
  unfold errorIn?
  rw [hfield]
  cases r.error <;> rfl

/-- What is there to read about a locale in a document of reports is its report. -/
theorem linesIn_field_document (reports : Entries Text Report) (locale : Text) :
    linesIn ((document reports).field locale) =
      (((Entries.get? locale reports).map Report.findings).getD []).map Finding.line := by
  have hfield : (document reports).field locale =
      ((Entries.get? locale reports).map Report.toJson).getD .null :=
    congrArg (fun found : Option Json => found.getD .null) (Entries.get?_map Report.toJson locale reports)
  rw [hfield]
  cases Entries.get? locale reports with
  | none => rfl
  | some r => exact linesIn_toJson r

theorem values_document (reports : Entries Text Report) :
    (document reports).values = reports.map (·.2.toJson) := by
  simp [document, Json.values, Entries.values]

theorem names_document (reports : Entries Text Report) : (document reports).names = Entries.keys reports := by
  simp [document, Json.names, Entries.keys]

/-- The lines for the errors of reports are those for the errors in their document, if every error has
something to say. -/
theorem errorLines_eq {reports : Entries Text Report} (h : ∀ e ∈ reports, e.2.hasError = e.2.error.isSome) :
    errorLines reports =
      ((document reports).values.filterMap errorIn?).flatMap fun error => (errorMark ++ error).line := by
  rw [values_document, List.filterMap_map]
  simp only [Function.comp_def, errorIn?_toJson]
  unfold errorLines
  induction reports with
  | nil => rfl
  | cons e rest ih =>
    have hrest := ih fun e' he' => h e' (List.mem_cons_of_mem _ he')
    have hfirst := h e List.mem_cons_self
    obtain ⟨locale, r⟩ := e
    simp only [List.flatMap_cons, List.filterMap_cons, hrest] at hfirst ⊢
    rw [hfirst]
    cases r.error <;> simp

/-- How the lines that are written for findings in text format stand to the document that is written in JSON
format, given the list of locales. -/
structure Retells (payload : Json) (listed lines : List Text) : Prop where
  /-- The document has each locale once, where the list first has it. -/
  names : payload.names = listed.eraseDups
  /-- The lines of a locale are written as often as it is listed. -/
  listing : lines = listed.flatMap fun locale => linesIn (payload.field locale)
  /-- They are the lines of the document exactly when nothing was found in a locale that is listed again. -/
  once : lines = payload.values.flatMap linesIn ↔
    ∀ locale, 2 ≤ listed.count locale → linesIn (payload.field locale) = []

/-- Deliveries that follow a list of locales retell the document of the reports on that list. -/
theorem retells_document {reports : Entries Text Report} {listed : List Text}
    (hkeys : Entries.keys reports = listed.eraseDups) :
    Retells (document reports) listed
      ((listed.flatMap fun locale => ((Entries.get? locale reports).map Report.findings).getD []).map
        Finding.line) := by
  have hlines : ((listed.flatMap fun locale =>
      ((Entries.get? locale reports).map Report.findings).getD []).map Finding.line) =
      listed.flatMap fun locale => linesIn ((document reports).field locale) := by
    simp only [List.map_flatMap, linesIn_field_document]
  have hnames : (document reports).names = listed.eraseDups := (names_document reports).trans hkeys
  refine ⟨hnames, hlines, ?_⟩
  -- the document is read name by name, and its names are the list without repetitions
  have hvalues : (document reports).values.flatMap linesIn =
      listed.eraseDups.flatMap fun locale => linesIn ((document reports).field locale) := by
    have hnodup : (document reports).names.Nodup := hnames ▸ Entries.nodup_eraseDups listed
    rw [Json.values_eq_map_field hnodup, List.flatMap_map, hnames]
  rw [hlines, hvalues, Entries.flatMap_eraseDups_eq_iff]

variable {linter : Linter} {read : Reader} {around : Surroundings} {time : Text} {argv : List Text}
  {options : Options} {settings : Settings} {threshold : Level} {reports : Entries Text Report}

/-! ## Outcomes -/

/-- How the linting ends does not depend on the format. -/
theorem outcome_lint_congr (format format' : OutputFormat) :
    (lint linter read { options with format := format } settings).outcome =
      (lint linter read { options with format := format' } settings).outcome := by
  -- a format decides on nothing but the sink, and no report depends on that
  cases hscope : options.scope? with
  | some scope =>
    have hlint : ∀ format, lint linter read { options with format := format } settings =
        Batch.lintScope read linter (sink? format) scope settings := by
      intro format
      unfold lint
      rw [show ({ options with format := format } : Options).scope? = some scope from hscope]
    have heach : ∀ format, (Batch.lintScope read linter (sink? format) scope settings).outcome = _ :=
      fun format => Batch.outcome_lintAll_eq_mapM (willing_sink? format) (scope.localesUnder settings)
    rw [hlint, hlint]
    exact (heach format).trans (heach format').symm
  | none =>
    have hlint : ∀ format, lint linter read { options with format := format } settings =
        lintUnnamed read linter (sink? format) options settings := by
      intro format
      unfold lint
      rw [show ({ options with format := format } : Options).scope? = none from hscope]
      rfl
    rw [hlint, hlint]
    unfold lintUnnamed
    cases hdir : options.dirUnder settings with
    | none => rfl
    | some dir =>
      have heach : ∀ format locales, ((Batch.mk read dir linter (sink? format)).lintEach [] locales).outcome =
          _ := fun format => Batch.outcome_lintEach_eq_mapM (willing_sink? format) []
      simp only [Run.outcome_bind, heach]
      rfl

/-- **The format does not matter for how a run ends.** -/
theorem outcome_run_congr {argv' : List Text} {format format' : OutputFormat}
    (hparse : Options.parse argv = .ok { options with format := format })
    (hparse' : Options.parse argv' = .ok { options with format := format' }) :
    (run linter read around time argv).outcome = (run linter read around time argv').outcome := by
  rw [outcome_run_eq hparse, outcome_run_eq hparse']
  simp only [outcome_lint_congr format format']

/-! ## What is written -/

/-- A run in which a name was left out ends well only with no locales to lint. -/
theorem delivered_of_lintUnnamed {sink? : Option Sink}
    (h : (lintUnnamed read linter sink? options settings).outcome = .ok reports) :
    options.namesUnder settings = [] ∧ (lintUnnamed read linter sink? options settings).delivered = [] := by
  unfold lintUnnamed at h ⊢
  cases hdir : options.dirUnder settings with
  | none =>
    simp only [hdir] at h ⊢
    rw [Run.delivered_bind_of_ok (Run.outcome_log _)]
    obtain ⟨_, -, h⟩ := Run.outcome_bind_eq_ok.mp h
    by_cases hnone : (options.namesUnder settings).isEmpty = true
    · simp only [hnone, if_true]
      exact ⟨List.isEmpty_iff.mp hnone, rfl⟩
    · rw [if_neg hnone] at h
      cases h
  | some dir =>
    simp only [hdir] at h
    obtain ⟨_, -, h⟩ := Run.outcome_bind_eq_ok.mp h
    obtain ⟨_, -, h⟩ := Run.outcome_bind_eq_ok.mp h
    exact absurd h (Batch.endUnnamed_ne_ok _ reports)

/-- Every locale that is listed has one report, where the list first has it. -/
theorem keys_of_reports (h : Reports linter read around options settings reports) :
    ∃ listed : List Text, options.namesUnder settings = listed.map some ∧
      Entries.keys reports = listed.eraseDups := by
  obtain ⟨-, -, hlint⟩ := h
  unfold lint at hlint
  cases hscope : options.scope? with
  | some scope =>
    simp only [hscope] at hlint
    have hs : Sink.Willing (Batch.ofScope read linter (sink? options.format) scope settings).sink? :=
      willing_sink? options.format
    exact ⟨_, options.namesUnder_of_scope? hscope settings, Batch.keys_of_lintAll hs hlint⟩
  | none =>
    simp only [hscope] at hlint
    obtain ⟨hnames, -⟩ := delivered_of_lintUnnamed hlint
    rw [reports_of_lintUnnamed hlint, hnames]
    exact ⟨[], rfl, rfl⟩

/-- The run in which the settings are read and what options ask for is linted. -/
def linting (linter : Linter) (read : Reader) (around : Surroundings) (options : Options) :
    Run (Entries Text Report) :=
  readSettings around >>= lint linter read options

/-- What is written to standard error for what happens in a run under some settings. -/
def written (settings : Settings) (threshold : Level) (time : Text) (events : List Event) : Text :=
  events.flatMap (eventText (entryText (if settings.debug then .console else .document) threshold time))

theorem linting_of_load (h : Settings.load around = .ok settings) :
    linting linter read around options =
      ⟨(Settings.skippedLines around).map .skipped ++ (lint linter read options settings).events,
        (lint linter read options settings).outcome⟩ := by
  unfold linting
  rw [readSettings_eq, h]
  rfl

/-- What is written for the lines passed over has nothing to do with the log. -/
theorem flatMap_eventText_skipped (lines : List Nat) (ofEntry : LogEntry → Text) :
    (lines.map Event.skipped).flatMap (eventText ofEntry) =
      lines.flatMap fun line => (Settings.skippedMessage line).line := by
  simp only [List.flatMap_map, eventText]

/-- **What a run writes that completes**: one document in JSON format, or else what happened in it and the
errors. -/
theorem run_of_reports (hparse : Options.parse argv = .ok options)
    (h : Reports linter read around options settings reports)
    (hlevel : Level.ofName settings.logLevel = .ok threshold) :
    run linter read around time argv =
      { outcome := .ok (exitCode options.strict reports)
        stdout := if options.format = .json then (Json.render .block (document reports)).line else []
        stderr := written settings threshold time (linting linter read around options).events ++
          if options.format = .json then [] else errorLines reports } := by
  obtain ⟨hload, -, hlint⟩ := h
  unfold run
  -- the notes on the settings file come first, whether they are written before the log is set up or with it
  simp only [hparse, readSettings_eq, hload, Except.mapError, linting_of_load hload, output, hlevel, hlint,
    written, List.flatMap_append, flatMap_eventText_skipped]
  cases options.format <;> simp

/-- The findings of a run in text format are delivered place by place on the list of locales. -/
theorem delivered_linting (htext : options.format = .text)
    (h : Reports linter read around options settings reports) :
    ∃ listed : List Text, options.namesUnder settings = listed.map some ∧
      Entries.keys reports = listed.eraseDups ∧
      (linting linter read around options).delivered =
        listed.flatMap fun locale => ((Entries.get? locale reports).map Report.findings).getD [] := by
  obtain ⟨hload, -, hlint⟩ := h
  -- nothing is delivered while the settings are read
  have hdelivered : (linting linter read around options).delivered =
      (lint linter read options settings).delivered := by
    rw [linting_of_load hload, Run.delivered_eq, List.filterMap_append, List.filterMap_map]
    simp [Event.finding?, Function.comp_def, Run.delivered_eq]
  rw [hdelivered]
  unfold lint at hlint ⊢
  cases hscope : options.scope? with
  | some scope =>
    simp only [hscope] at hlint ⊢
    have hs : Sink.Willing (Batch.ofScope read linter (sink? options.format) scope settings).sink? :=
      willing_sink? options.format
    refine ⟨_, options.namesUnder_of_scope? hscope settings, Batch.keys_of_lintAll hs hlint, ?_⟩
    have hall := Batch.delivered_lintAll hs hlint
    have hsome : (Batch.ofScope read linter (sink? options.format) scope settings).sink?.isSome = true := by
      rw [htext]
      rfl
    rw [if_pos hsome] at hall
    exact hall
  | none =>
    simp only [hscope] at hlint ⊢
    obtain ⟨hnames, hnothing⟩ := delivered_of_lintUnnamed hlint
    rw [reports_of_lintUnnamed hlint, hnames, hnothing]
    exact ⟨[], rfl, rfl, rfl⟩

/-! ## The two formats -/

/-- Two command lines ask for the same, the one in text format and the other in JSON format. -/
structure SameButFormat (argvText argvJson : List Text) (options : Options) : Prop where
  text : Options.parse argvText = .ok { options with format := .text }
  json : Options.parse argvJson = .ok { options with format := .json }

/-- The words that ask for text format. -/
def asText : List Text := ["--format", "text"]

/-- The words that ask for JSON format. -/
def asJson : List Text := ["--format", "json"]

/-- Every command line that asks for something can be made to ask for it in either format. -/
theorem sameButFormat_append (h : Options.parse argv = .ok options) :
    SameButFormat (argv ++ asText) (argv ++ asJson) options := by
  have htext : Options.recognizeAll asText = .ok [.option .format none, .plain "text"] := rfl
  have hjson : Options.recognizeAll asJson = .ok [.option .format none, .plain "json"] := rfl
  exact ⟨(Options.parse_append h htext).trans rfl, (Options.parse_append h hjson).trans rfl⟩

/-- **What the two formats of a run have in common.** The runs end in the same way. When they complete, the
JSON format writes a document of reports. The text format writes the errors in this document, in its order, and
before them the lines of the findings among the log. These retell the document along the list of locales. -/
theorem run_formats_agree {argvText argvJson : List Text} (h : SameButFormat argvText argvJson options)
    (linter : Linter) (read : Reader) (around : Surroundings) (time : Text) :
    (run linter read around time argvText).outcome = (run linter read around time argvJson).outcome ∧
    ∀ code, (run linter read around time argvJson).outcome = .ok code →
      ∃ settings threshold reports, ∃ listed : List Text,
        Reports linter read around { options with format := .json } settings reports ∧
        Level.ofName settings.logLevel = .ok threshold ∧
        options.namesUnder settings = listed.map some ∧
        (run linter read around time argvJson).stdout = (Json.render .block (document reports)).line ∧
        (run linter read around time argvText).stderr =
          written settings threshold time
            (linting linter read around { options with format := .text }).events ++
          ((document reports).values.filterMap errorIn?).flatMap (fun error => (errorMark ++ error).line) ∧
        Retells (document reports) listed
          ((linting linter read around { options with format := .text }).delivered.map Finding.line) := by
  refine ⟨outcome_run_congr h.text h.json, fun code hcode => ?_⟩
  obtain ⟨settings, reports, hjson, -⟩ := (outcome_run_eq_ok_iff h.json).mp hcode
  obtain ⟨threshold, hlevel⟩ := hjson.2.1
  -- the reports are the same in both formats, and only in text format something is delivered on the way
  have htext : Reports linter read around { options with format := .text } settings reports :=
    ⟨hjson.1, ⟨threshold, hlevel⟩, (outcome_lint_congr .text .json).trans hjson.2.2⟩
  obtain ⟨listed, hlisted, hkeys, hdelivered⟩ := delivered_linting rfl htext
  have herrors : ∀ e ∈ reports, e.2.hasError = e.2.error.isSome := by
    intro e he
    obtain ⟨dir, -, hreport⟩ := reportOf_of_reports htext he
    exact Batch.hasError_eq_isSome hreport
  refine ⟨settings, threshold, reports, listed, hjson, hlevel, hlisted, ?_, ?_, ?_⟩
  · rw [run_of_reports h.json hjson hlevel, if_pos rfl]
  · simp only [run_of_reports h.text htext hlevel, errorLines_eq herrors, reduceCtorEq, if_false]
  · rw [hdelivered]
    exact retells_document hkeys

/-- The text of a model with one phrase, which starts with a blank. -/
def blankModel : Text := "\x7b\"intents\": \x7b\"A\": \x7b\"phrases\": [\" x\"]\x7d\x7d\x7d"

/-- Files that all hold this model. -/
def blankFiles : Reader := fun _ => .ok (Utf8.encode blankModel)

/-- The line of what is wrong with it. -/
def blankLine : Text :=
  "🔺 Warning: phrase ' x' has superfluous whitespace in intent 'A' in 'en' model. "

/-- A locale that is listed once has the same line in both formats. -/
theorem run_formats_agree_blankModel :
    SameButFormat asText asJson Options.default ∧
      ∃ reports,
        (run Linter.standard blankFiles ⟨[], none⟩ [] asJson).stdout =
          (Json.render .block (document reports)).line ∧
        (document reports).values.flatMap linesIn = [blankLine] ∧
        (linting Linter.standard blankFiles ⟨[], none⟩ Options.default).delivered.map Finding.line =
          [blankLine] := by
  have hsame : SameButFormat asText asJson Options.default :=
    @sameButFormat_append [] _ rfl
  have hcode : (run Linter.standard blankFiles ⟨[], none⟩ [] asJson).outcome = .ok .ok := by
    decide +kernel
  have hline : (linting Linter.standard blankFiles ⟨[], none⟩ Options.default).delivered.map Finding.line =
      [blankLine] := by decide +kernel
  obtain ⟨settings, _, reports, listed, ⟨hload, -⟩, -, hlisted, hstdout, -, hretells⟩ :=
    (run_formats_agree hsame Linter.standard blankFiles ⟨[], none⟩ []).2 .ok hcode
  have hone : listed = [("en" : Text)] := by
    cases hload
    exact (List.map_inj_right fun _ _ => Option.some.inj).mp hlisted.symm
  refine ⟨hsame, reports, hstdout, ?_, hline⟩
  rw [← hline]
  refine (hretells.once.mpr fun locale htwice => ?_).symm
  have hcount : listed.count locale ≤ 1 := by
    rw [hone]
    exact List.count_le_length
  omega

/-- A command line that lists one locale twice. -/
def twice : List Text := ["--locale", "en", "--locale", "en"]

/-- What it asks for. -/
def twiceOptions : Options := { Options.default with locales := some [some "en", some "en"] }

/-- **A locale that is listed twice has its lines twice in text format**, and once in JSON format. -/
theorem run_formats_differ :
    SameButFormat (twice ++ asText) (twice ++ asJson) twiceOptions ∧
      (run Linter.standard blankFiles ⟨[], none⟩ [] (twice ++ asText)).outcome = .ok .ok ∧
      (linting Linter.standard blankFiles ⟨[], none⟩ twiceOptions).delivered.map Finding.line =
        [blankLine, blankLine] ∧
      ∃ reports,
        Reports Linter.standard blankFiles ⟨[], none⟩ { twiceOptions with format := .json } Settings.default
          reports ∧
        (run Linter.standard blankFiles ⟨[], none⟩ [] (twice ++ asJson)).stdout =
          (Json.render .block (document reports)).line ∧
        (document reports).values.flatMap linesIn = [blankLine] := by
  have hsame : SameButFormat (twice ++ asText) (twice ++ asJson) twiceOptions :=
    @sameButFormat_append twice _ rfl
  have hreports : Reports Linter.standard blankFiles ⟨[], none⟩ { twiceOptions with format := .json }
      Settings.default [("en", Linter.standard.report ⟨[("A", ⟨some [" x"]⟩)], none⟩ "en")] :=
    ⟨rfl, ⟨.info, rfl⟩, by decide +kernel⟩
  refine ⟨hsame, by decide +kernel, by decide +kernel, _, hreports, ?_, by decide +kernel⟩
  rw [run_of_reports hsame.json hreports rfl, if_pos rfl]

end Command
end IntentLint
