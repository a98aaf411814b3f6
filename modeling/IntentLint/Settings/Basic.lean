import IntentLint.Failure
import IntentLint.Settings.EnvFile
import IntentLint.Text.Case

/-!
# `Settings.Basic` — settings from the environment and a file

A setting is taken from the environment, else from the settings file, else it has a default. The case of
names does not count, and names without a meaning are passed over. The list of locales is a document; `null`
leaves it unset. All problems with the values are reported together.
-/

namespace IntentLint

/-- The settings of a run. -/
structure Settings where
  modelsDir : Text
  locales : List Text
  debug : Bool
  logLevel : Text
deriving DecidableEq

/-- Where settings come from: the variables of the environment and the octets of the settings file. -/
structure Surroundings where
  environment : List (Text × Text)
  settingsFile : Option Bytes

namespace Settings

/-- The settings when nothing is set. -/
def default : Settings := ⟨"models", ["en"], false, "info"⟩

/-- The name of the settings file. -/
def fileName : Text := ".env"

/-- Texts that mean yes. -/
def yesWords : List Text := ["1", "on", "t", "true", "y", "yes"]

/-- Texts that mean no. -/
def noWords : List Text := ["0", "off", "f", "false", "n", "no"]

/-- Reads a Boolean word, in any case. -/
def readBoolean (t : Text) : Reading Bool :=
  if t.lowerAscii ∈ yesWords then .ok true
  else if t.lowerAscii ∈ noWords then .ok false
  else Reading.refuse .notBoolean

/-- The value of the last variable with a name, the case of which does not count. -/
def find? (name : Text) (vars : List (Text × Option Text)) : Option Text :=
  ((vars.filter fun (k, _) => k.lower = name).getLast?).bind (·.2)

/-- The document of a list of locales, if there is one and it is not null. -/
def decodeLocales (inFile : Bool) (value : Option Text) : Except SettingsError (Option Json) :=
  match value with
  | none => .ok none
  | some t =>
    match Json.decode t with
    | .ok .null => .ok none
    | .ok v => .ok (some v)
    | .error _ => .error (.malformedLocales inFile)

/-- The text of the settings file; a file that is not there is empty. -/
def fileText (around : Surroundings) : Except SettingsError Text :=
  match around.settingsFile with
  | none => .ok []
  | some octets => (textOfOctets octets).mapError .unreadable

/-- The lines of the settings file with statements that cannot be read. -/
def skippedLines (around : Surroundings) : List Nat :=
  match fileText around with
  | .ok t => EnvFile.unreadableLines t
  | .error _ => []

/-- The message about a statement that cannot be read. -/
def skippedMessage (line : Nat) : Text :=
  "python-dotenv could not parse statement starting at line " ++ Text.ofNat line

/-- Reads a setting, or takes its default. -/
def setting (name : Text) (read : α → Reading β) (default : β) (value : Option α) : Reading β :=
  match value with
  | none => .ok default
  | some v => (read v).under (.member name)

/-- The settings in some surroundings. -/
def load (around : Surroundings) : Except SettingsError Settings := do
  let t ← fileText around
  let inFile := EnvFile.values around.environment t
  let inEnvironment : List (Text × Option Text) := around.environment.map fun (k, v) => (k, some v)
  let locales ← decodeLocales false (find? "locales" inEnvironment)
  let fileLocales ← decodeLocales true (find? "locales" inFile)
  let value name := (find? name inEnvironment).or (find? name inFile)
  ((Reading.both (setting "MODELS_DIR" .ok default.modelsDir (value "models_dir"))
    (Reading.both
      (setting "LOCALES" (Reading.list Reading.text) default.locales (locales.or fileLocales))
      (Reading.both (setting "DEBUG" readBoolean default.debug (value "debug"))
        (setting "LOG_LEVEL" .ok default.logLevel (value "log_level"))))).map
    fun (modelsDir, locales, debug, logLevel) => ⟨modelsDir, locales, debug, logLevel⟩).mapError
      .unfit

end Settings
end IntentLint
