import IntentLint.Check.Standard
import IntentLint.Model.Reading
import IntentLint.Run

/-!
# `Linter` — a chain of checks over one model

The checks run one after the other over the same model. Each delivers its findings before the next one
starts. A check that breaks down is named in the report and the others still run; a refused finding ends the
run.
-/

namespace IntentLint

/-- What is linted: a model, a document to be read as one, or the text of such a document. -/
inductive Source where
  | model (m : LanguageModel)
  | document (v : Json)
  | text (t : Text)

namespace Source

/-- A document as a source: one that is a text is itself taken as the text of a document. -/
def ofJson : Json → Source
  | .text t => .text t
  | v => .document v

/-- The model of a document. -/
def readDocument (locale : Text) (v : Json) : Except Failure LanguageModel :=
  (LanguageModel.ofJson v).mapError fun problems => .lint ⟨locale, .unfit problems⟩

/-- The model of a source, for a locale. -/
def read (locale : Text) : Source → Except Failure LanguageModel
  | .model m => .ok m
  | .document v => readDocument locale v
  | .text t =>
    match Json.decode t with
    | .ok v => readDocument locale v
    | .error (.malformed fault position) => .error (.lint ⟨locale, .malformedText fault position⟩)
    | .error (.oversizedInteger digits) => .error (.oversizedInteger digits)

end Source

/-- What a chain of checks comes to: the findings, and the names of the checks that broke down. -/
structure Tally where
  findings : List Finding
  failedChecks : List Text
deriving DecidableEq

/-- A chain of checks. -/
structure Linter where
  checks : List Check

namespace Linter

/-- The linter with the standard checks. -/
def standard : Linter := ⟨Check.standard⟩

/-- The names of the checks in order. -/
def names (linter : Linter) : List Text := linter.checks.map Check.name

/-- A linter with one more check at the end. -/
def add (linter : Linter) (check : Check) : Linter := ⟨linter.checks ++ [check]⟩

/-- A linter without the checks of a name. -/
def remove (linter : Linter) (name : Text) : Linter := ⟨linter.checks.filter (·.name ≠ name)⟩

/-- Runs checks over a model, delivering to a sink that holds some findings already. -/
def runChecks (sink? : Option Sink) (held : List Finding) (m : LanguageModel) (locale : Text) :
    List Check → Run Tally
  | [] => .done ⟨[], []⟩
  | check :: rest =>
    match check.run m locale with
    | .error message => do
      Run.log (.checkFailed check.name locale message)
      let tally ← runChecks sink? held m locale rest
      return { tally with failedChecks := check.name :: tally.failedChecks }
    | .ok findings => do
      Sink.deliverTo sink? held findings
      let tally ← runChecks sink? (held ++ findings) m locale rest
      return { tally with findings := findings ++ tally.findings }

/-- Lints a model. -/
def lintModel (linter : Linter) (sink? : Option Sink) (held : List Finding) (m : LanguageModel)
    (locale : Text) : Run Report := do
  let tally ← runChecks sink? held m locale linter.checks
  let report := Report.build locale tally.findings tally.failedChecks
  Run.log (.checked locale report.passed report.summary report.findings.length
    linter.names.eraseDups)
  return report

/-- Lints a source. -/
def lint (linter : Linter) (sink? : Option Sink) (held : List Finding) (source : Source)
    (locale : Text) : Run Report := do
  let m ← Run.ofExcept (source.read locale)
  lintModel linter sink? held m locale

end Linter
end IntentLint
