import IntentLint.Settings.Basic

/-!
# `Settings.Scope` — which models a run goes over

A caller may name the locales and the directory of the model files. What a caller leaves open is taken from
the settings.
-/

namespace IntentLint

/-- The locales and the models directory that a caller names. -/
structure Scope where
  locales : Option (List Text)
  modelsDir : Option Text
deriving DecidableEq

namespace Scope

/-- The scope that leaves everything to the settings. -/
def unnamed : Scope := ⟨none, none⟩

/-- The locales of a run. -/
def localesUnder (scope : Scope) (settings : Settings) : List Text := scope.locales.getD settings.locales

/-- The models directory of a run. -/
def modelsDirUnder (scope : Scope) (settings : Settings) : Text :=
  scope.modelsDir.getD settings.modelsDir

end Scope
end IntentLint
