import IntentLint.Check.Bracket
import IntentLint.Check.OuterBlank

/-!
# `Check.Standard` — the checks of a standard run
-/

namespace IntentLint

/-- The five checks that every model goes through, in their order. -/
def Check.standard : List Check :=
  [.duplicatePhrase, .duplicateValue, .phraseBlank, .valueBlank, .bracket]

end IntentLint
