import IntentLint.Batch
import IntentLint.Command.Options

/-!
# `Command.Unnamed` — runs in which a name was left out

An option may be given without the name of a directory or of a locale. Without a directory no model can be
looked for. A locale without a name is looked for under an empty list, and no finding or report can be about
it: a check that finds something breaks down, and the run ends there, after the locales before it.
-/

namespace IntentLint

/-- The locales that options ask for, with the names that were left out. -/
def Options.namesUnder (options : Options) (settings : Settings) : List (Option Text) :=
  options.locales.getD (settings.locales.map some)

/-- The directory that options ask for; `none` when its name was left out. -/
def Options.dirUnder (options : Options) (settings : Settings) : Option Text :=
  options.modelsDir.getD (some settings.modelsDir)

/-- What a check logs for a model of a locale without a name. -/
def Check.unnamedLog? (check : Check) (m : LanguageModel) : Option LogEntry :=
  match check.run m LogEntry.noName with
  | .ok [] => none
  | .ok _ => some (.unnamedCheckFailed check.name Finding.unnamedMessage)
  | .error message => some (.unnamedCheckFailed check.name message)

namespace Batch

/-- Ends a run at a locale without a name. -/
def endUnnamed (batch : Batch) : Run (Entries Text Report) :=
  let model : Except Failure LanguageModel := do
    let v ← loadModel batch.read batch.modelsDir LogEntry.noName
    (Source.ofJson v).read LogEntry.noName
  match model with
  | .error (.lint error) => ⟨[.logged (.unnamedFailed error.message)], .error .unnamedLocale⟩
  | .error failure => .fail failure
  | .ok m =>
    ⟨(batch.linter.checks.filterMap (·.unnamedLog? m)).map .logged, .error .unnamedLocale⟩

end Batch

namespace Command

/-- Lints what options ask for when a name in them was left out. -/
def lintUnnamed (read : Reader) (linter : Linter) (sink? : Option Sink) (options : Options)
    (settings : Settings) : Run (Entries Text Report) := do
  let names := options.namesUnder settings
  Run.log (.launchingUnnamed names (options.dirUnder settings))
  match options.dirUnder settings with
  | none =>
    if names.isEmpty then
      Run.log (Batch.completion [])
      return []
    else Run.fail .unnamedDirectory
  | some dir =>
    let batch : Batch := { read := read, modelsDir := dir, linter := linter, sink? := sink? }
    let _ ← batch.lintEach [] ((names.takeWhile Option.isSome).filterMap id)
    batch.endUnnamed

end Command
end IntentLint
