import IntentLint.Files.Path
import IntentLint.Linter
import IntentLint.Settings.Scope

/-!
# `Batch` — linting the models of several locales

The models are files in one directory, one per locale. A locale whose model cannot be linted gets a report
that says why, and the next locale follows. Reports are kept by locale: a locale that is listed again is
linted again, and its report replaces the earlier one.

Which locales are linted, and in which directory, is a matter of the scope of a run. The settings are read
first, also when the scope leaves nothing to them.
-/

namespace IntentLint

/-- Reads the document in the model file of a locale. -/
def loadModel (read : Reader) (modelsDir locale : Text) : Except Failure Json :=
  let path := (Path.ofModel modelsDir locale).text
  match PathFault.ofText? path with
  | some fault => .error (.unusablePath fault)
  | none =>
    match read.text path with
    | .error fault => .error (.lint ⟨locale, .unreadableFile path fault⟩)
    | .ok t =>
      match Json.decode t with
      | .ok v => .ok v
      | .error (.malformed fault position) =>
        .error (.lint ⟨locale, .malformedFile path fault position⟩)
      | .error (.oversizedInteger digits) => .error (.oversizedInteger digits)

/-- Reads the settings of some surroundings, and notes what cannot be read in the settings file. -/
def readSettings (around : Surroundings) : Run Settings := do
  Run.skip (Settings.skippedLines around)
  Run.ofExcept ((Settings.load around).mapError .settings)

/-- What the models of several locales are linted with. -/
structure Batch where
  read : Reader
  modelsDir : Text
  linter : Linter
  sink? : Option Sink

namespace Batch

/-- Lints the model of a locale; a lint error becomes the report of a failure. -/
def lintLocale (batch : Batch) (held : List Finding) (locale : Text) : Run Report :=
  let attempt : Run Report := do
    let v ← Run.ofExcept (loadModel batch.read batch.modelsDir locale)
    batch.linter.lint batch.sink? held (Source.ofJson v) locale
  attempt.catchLint fun error => do
    Run.log (.lintFailed locale error.message)
    return Report.failed locale (some error.message)

/-- Lints the models of locales in order, with a report for each place in the list. -/
def lintEach (batch : Batch) (held : List Finding) : List Text → Run (List (Text × Report))
  | [] => .done []
  | locale :: rest =>
    let first := batch.lintLocale held locale
    first.andThen fun report =>
      (batch.lintEach (held ++ first.delivered) rest).andThen fun reports =>
        .done ((locale, report) :: reports)

/-- The entry at the end of a run. -/
def completion (reports : Entries Text Report) : LogEntry :=
  .lintComplete reports.length ((reports.filter (·.2.hasError)).map (·.1))
    (reports.foldr (fun (_, report) n => report.findings.length + n) 0)

/-- Lints the models of locales, with one report for each locale. -/
def lintAll (batch : Batch) (locales : List Text) : Run (Entries Text Report) := do
  Run.log (.launching locales batch.modelsDir)
  let reports ← batch.lintEach [] locales
  Run.log (completion (Entries.ofList reports))
  return Entries.ofList reports

/-- The batch of a scope under some settings. -/
def ofScope (read : Reader) (linter : Linter) (sink? : Option Sink) (scope : Scope)
    (settings : Settings) : Batch :=
  { read := read, modelsDir := scope.modelsDirUnder settings, linter := linter, sink? := sink? }

/-- Lints the models of a scope under some settings. -/
def lintScope (read : Reader) (linter : Linter) (sink? : Option Sink) (scope : Scope)
    (settings : Settings) : Run (Entries Text Report) :=
  (ofScope read linter sink? scope settings).lintAll (scope.localesUnder settings)

/-- Lints the models of a scope in some surroundings. -/
def lintIn (around : Surroundings) (read : Reader) (linter : Linter) (sink? : Option Sink)
    (scope : Scope) : Run (Entries Text Report) := do
  let settings ← readSettings around
  lintScope read linter sink? scope settings

end Batch
end IntentLint
