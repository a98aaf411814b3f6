import IntentLint.Finding
import IntentLint.Model.Basic
import IntentLint.Text.Blank
import IntentLint.Text.Case

/-!
# `Check.Basic` — checks

A check has a name and goes over the model of a locale. It comes to a list of findings, in the order of the
model, or it breaks down with a message. Texts are compared by key: without outer blanks, in lower case.
-/

namespace IntentLint

/-- The form of a text in which it is compared with others. -/
def Text.key (t : Text) : Text := t.trim.lower

/-- A check of the model of a locale. -/
structure Check where
  name : Text
  /-- The findings in a model for a locale, or the message of a breakdown. -/
  run : LanguageModel → Text → Except Text (List Finding)

/-- A check that never breaks down. -/
def Check.ofFindings (name : Text) (findings : LanguageModel → Text → List Finding) : Check :=
  ⟨name, fun m locale => .ok (findings m locale)⟩

end IntentLint
