import IntentLint.Settings.Basic

/-!
# `Settings.Session` — settings that are read once

A session keeps the first settings it reads successfully until it is told to forget them. What changes around
it in the meantime does not show; a failure is not kept.
-/

namespace IntentLint

/-- Surroundings that may change, and the settings kept. -/
structure Session where
  around : Surroundings
  kept : Option Settings

namespace Session

/-- A session that has read nothing yet. -/
def start (around : Surroundings) : Session := ⟨around, none⟩

/-- The session in other surroundings. -/
def move (session : Session) (around : Surroundings) : Session := { session with around := around }

/-- The session that has forgotten its settings. -/
def forget (session : Session) : Session := { session with kept := none }

/-- The settings of a session, and the session that keeps them. -/
def get (session : Session) : Except SettingsError Settings × Session :=
  match session.kept with
  | some settings => (.ok settings, session)
  | none =>
    match Settings.load session.around with
    | .ok settings => (.ok settings, { session with kept := some settings })
    | .error error => (.error error, session)

end Session
end IntentLint
