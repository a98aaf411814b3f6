import IntentLint.Batch
import IntentLint.Command.Help
import IntentLint.Command.Unnamed
import IntentLint.Json.Render
import IntentLint.Log.Line

/-!
# `Command.Run` — a run of the command

The command lints the locales it is given, or those of the settings. In text format every finding is a line
on standard error as soon as it is found, and the errors of locales follow at the end; in JSON format the
reports are one document on standard output. The log goes to standard error between the findings.

Standard output and standard error are taken to accept every text and to keep it as it is. A stream with a strict
encoding has no form for a lone surrogate, and refuses a text that has one; how a run ends on such a stream is not
said here.
-/

namespace IntentLint
namespace Command

/-! ## Fixed texts -/

/-- The mark in front of the error of a locale. -/
def errorMark : Text := "❌ Error: "

/-! ## Exit codes -/

/-- How the command ends. -/
inductive ExitCode where
  | ok
  /-- A strict run found something. -/
  | findings
  /-- A locale could not be linted, or the command line was refused. -/
  | failed
deriving DecidableEq

/-- The number of an exit code. -/
def ExitCode.number : ExitCode → Nat
  | .ok => 0
  | .findings => 1
  | .failed => 2

/-- The exit code of a run with some reports. -/
def exitCode (strict : Bool) (reports : Entries Text Report) : ExitCode :=
  if reports.any (·.2.hasError) then .failed
  else if strict && reports.any (!·.2.findings.isEmpty) then .findings
  else .ok

/-! ## Output -/

/-- What a run of the command writes, and how it ends. To write does not fail, whatever the text: a lone surrogate
is written like any other code point. -/
structure Output where
  outcome : Except Failure ExitCode
  stdout : Text
  stderr : Text

/-- What is written for an entry of the log: nothing below the threshold. -/
def entryText (format : LogFormat) (threshold : Level) (time : Text) (entry : LogEntry) : Text :=
  if entry.level.passes threshold then (entry.line format time).line else []

/-- What is written to standard error for an event, given what is written for an entry of the log. -/
def eventText (ofEntry : LogEntry → Text) : Event → Text
  | .delivered finding => finding.line.line
  | .logged entry => ofEntry entry
  | .skipped line => (Settings.skippedMessage line).line

/-- The reports as one document. -/
def document (reports : Entries Text Report) : Json :=
  .object (reports.map fun (locale, report) => (locale, report.toJson))

/-- The lines for the errors of locales. -/
def errorLines (reports : Entries Text Report) : Text :=
  reports.flatMap fun (_, report) =>
    if report.hasError then (errorMark ++ report.error.getD []).line else []

/-! ## Running -/

/-- Findings are delivered in text format alone. -/
def sink? (format : OutputFormat) : Option Sink :=
  match format with
  | .text => some Sink.accepting
  | .json => none
  | .unnamed => none

/-- Lints what options ask for. -/
def lint (linter : Linter) (read : Reader) (options : Options) (settings : Settings) :
    Run (Entries Text Report) :=
  match options.scope? with
  | some scope => Batch.lintScope read linter (sink? options.format) scope settings
  | none => lintUnnamed read linter (sink? options.format) options settings

/-- What a run with options and settings writes. -/
def output (linter : Linter) (read : Reader) (time : Text) (options : Options) (settings : Settings) :
    Output :=
  match Level.ofName settings.logLevel with
  | .error name => ⟨.error (.reservedLevel name), [], []⟩
  | .ok threshold =>
    let run := lint linter read options settings
    let format := if settings.debug then LogFormat.console else LogFormat.document
    let log := run.events.flatMap (eventText (entryText format threshold time))
    match run.outcome with
    | .error failure => ⟨.error failure, [], log⟩
    | .ok reports =>
      let code := exitCode options.strict reports
      match options.format with
      | .json => ⟨.ok code, (Json.render .block (document reports)).line, log⟩
      | _ => ⟨.ok code, [], log ++ errorLines reports⟩

/-- Runs the command. The log lines carry the time given. -/
def run (linter : Linter) (read : Reader) (around : Surroundings) (time : Text) (argv : List Text) :
    Output :=
  match Options.parse argv with
  | .error .help => ⟨.ok .ok, help (columns around.environment), []⟩
  | .error (.misuse fault) =>
    ⟨.ok .failed, [], usage (columns around.environment) ++ name ++ ": error: " ++ fault.message.line⟩
  | .ok options =>
    let start := readSettings around
    let notes := start.events.flatMap (eventText fun _ => [])
    match start.outcome with
    | .error failure => ⟨.error failure, [], notes⟩
    | .ok settings =>
      let rest := output linter read time options settings
      { rest with stderr := notes ++ rest.stderr }

/-- The paths of the files that a run may read. -/
def paths (around : Surroundings) (argv : List Text) : List Text :=
  match Options.parse argv, Settings.load around with
  | .ok options, .ok settings =>
    match options.dirUnder settings with
    | some dir =>
      (options.namesUnder settings).map fun name => (Path.ofModel dir (name.getD LogEntry.noName)).text
    | none => []
  | _, _ => []

end Command
end IntentLint
