import IntentLint.Check.Basic

/-!
# `Check.Clash` — uses of a key that was used before

Going through a list of uses, a use clashes when an earlier one has the same key. It clashes with the latest
of them: a record of owners is kept in which each use takes over its key.
-/

namespace IntentLint

variable {α : Type}

/-- The uses that clash, each with the owner it clashes with, given the owners so far, latest first. -/
def clashesAfter (key owner : α → Text) (owners : List (Text × Text)) : List α → List (α × Text)
  | [] => []
  | use :: rest =>
    let later := clashesAfter key owner ((key use, owner use) :: owners) rest
    match Entries.get? (key use) owners with
    | some previous => (use, previous) :: later
    | none => later

/-- The uses that clash with an earlier one, each with the owner of the latest such use. -/
def clashes (key owner : α → Text) (uses : List α) : List (α × Text) := clashesAfter key owner [] uses

end IntentLint
