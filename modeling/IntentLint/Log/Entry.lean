import IntentLint.Log.Level
import IntentLint.Report

/-!
# `Log.Entry` — what a run logs

A run logs where it starts, what each locale came to, and a count at the end. Times are no part of an entry:
the fields that hold a time say zero.
-/

namespace IntentLint

/-- An entry of the log. -/
inductive LogEntry where
  | launching (locales : List Text) (modelsDir : Text)
  /-- A start with a locale or a directory that was left without a name. -/
  | launchingUnnamed (locales : List (Option Text)) (modelsDir : Option Text)
  | lintFailed (locale error : Text)
  /-- The model of a locale without a name cannot be linted. -/
  | unnamedFailed (error : Text)
  /-- A check of the model of a locale without a name broke down. -/
  | unnamedCheckFailed (check error : Text)
  | lintComplete (locales : Nat) (failed : List Text) (findings : Nat)
  | checkFailed (check locale error : Text)
  /-- A model went through the checks named; each check is named once. -/
  | checked (locale : Text) (passed : Bool) (summary : List (Code × Nat)) (findings : Nat)
      (checks : List Text)
deriving DecidableEq

namespace LogEntry

/-- How serious an entry is. -/
def level : LogEntry → Level
  | .launching .. => .info
  | .launchingUnnamed .. => .info
  | .lintFailed .. => .error
  | .unnamedFailed .. => .error
  | .unnamedCheckFailed .. => .error
  | .lintComplete .. => .info
  | .checkFailed .. => .error
  | .checked .. => .debug

/-- The name of the event that an entry logs. -/
def event : LogEntry → Text
  | .launching .. => "model_linter_launching"
  | .launchingUnnamed .. => "model_linter_launching"
  | .lintFailed .. => "model_lint_failed"
  | .unnamedFailed .. => "model_lint_failed"
  | .unnamedCheckFailed .. => "validator_failed"
  | .lintComplete .. => "model_lint_complete"
  | .checkFailed .. => "validator_failed"
  | .checked .. => "validation_complete"

/-- A list of texts as a field. -/
def texts (ts : List Text) : Json := .array (ts.map Json.text)

/-- A count as a field. -/
def count (n : Nat) : Json := .number (.integer n)

/-- What stands in a text for a name that was left out: an empty list. -/
def noName : Text := "[]"

/-- A name as a field; it may have been left out. -/
def nameJson (t : Option Text) : Json := (t.map Json.text).getD (.array [])

/-- The fields of an entry. -/
def fields : LogEntry → List (Text × Json)
  | .launching locales modelsDir => [("locales", texts locales), ("models_dir", .text modelsDir)]
  | .launchingUnnamed locales modelsDir =>
    [("locales", .array (locales.map nameJson)), ("models_dir", .text (modelsDir.getD noName))]
  | .lintFailed locale error => [("locale", .text locale), ("error", .text error)]
  | .unnamedFailed error => [("locale", nameJson none), ("error", .text error)]
  | .unnamedCheckFailed check error =>
    [("validator", .text check), ("locale", nameJson none), ("error", .text error)]
  | .lintComplete locales failed findings =>
    [("locales", count locales), ("failed", texts failed), ("total_warnings", count findings)]
  | .checkFailed check locale error =>
    [("validator", .text check), ("locale", .text locale), ("error", .text error)]
  | .checked locale passed summary findings checks =>
    [("locale", .text locale), ("passed", .bool passed), ("summary", Report.summaryJson summary),
     ("total_warnings", count findings), ("duration_ms", count 0),
     ("validator_timings", .object (checks.map fun name => (name, count 0)))]

end LogEntry
end IntentLint
