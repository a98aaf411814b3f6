import IntentLint.Files.Reader
import IntentLint.Json.Decode
import IntentLint.Log.Level
import IntentLint.Problem

/-!
# `Failure` — what ends a run

A lint error belongs to one locale: its model cannot be read, is no document, or has the wrong structure. A
run over several locales reports it and goes on. Every other failure ends the whole run.
-/

namespace IntentLint

/-- Why the settings cannot be used. -/
inductive SettingsError where
  /-- The settings file is no UTF-8. -/
  | unreadable (fault : Utf8.Fault)
  /-- The list of locales is no document, in the environment or in the settings file. -/
  | malformedLocales (inFile : Bool)
  | unfit (problems : List Problem)
deriving DecidableEq

/-- Why one model cannot be linted. -/
inductive LintCause where
  | unreadableFile (path : Text) (fault : FileFault)
  | malformedFile (path : Text) (fault : Json.Fault) (position : Position)
  | malformedText (fault : Json.Fault) (position : Position)
  | unfit (problems : List Problem)
deriving DecidableEq

/-- The failure of one locale. -/
structure LintError where
  locale : Text
  cause : LintCause
deriving DecidableEq

/-- What ends a run. -/
inductive Failure where
  | lint (error : LintError)
  | oversizedInteger (digits : Nat)
  | unusablePath (fault : PathFault)
  | settings (error : SettingsError)
  /-- The settings choose a threshold of the log by a name that is reserved. -/
  | reservedLevel (name : ReservedName)
  /-- The directory of the models was left without a name. -/
  | unnamedDirectory
  /-- A report would be about a locale that was left without a name. -/
  | unnamedLocale
  /-- A finding was not accepted where it was delivered. -/
  | refused (message : Text)
deriving DecidableEq

/-! ## Wording -/

/-- The message of a settings error. -/
def SettingsError.message : SettingsError → Text
  | .unreadable fault => fault.message
  | .malformedLocales inFile =>
    "error parsing value for field \"LOCALES\" from source \"" ++
      (if inFile then "DotEnvSettingsSource" else "EnvSettingsSource") ++ "\""
  | .unfit problems => Problem.list problems

/-- The message of a lint error. -/
def LintError.message (e : LintError) : Text :=
  match e.cause with
  | .unreadableFile path fault =>
    "Cannot read '" ++ e.locale ++ "' model at " ++ path ++ ": " ++ fault.message path
  | .malformedFile path fault position =>
    "Cannot parse '" ++ e.locale ++ "' model at " ++ path ++ ": " ++ fault.message position
  | .malformedText fault position =>
    "Cannot parse '" ++ e.locale ++ "' model JSON: " ++ fault.message position
  | .unfit problems => "Invalid structure in '" ++ e.locale ++ "' model: " ++ Problem.list problems

/-- The message of a failure. -/
def Failure.message : Failure → Text
  | .lint error => error.message
  | .oversizedInteger digits => Json.oversizedMessage digits
  | .unusablePath fault => fault.message
  | .settings error => error.message
  | .reservedLevel name => name.message
  | .unnamedDirectory => "expected str, bytes or os.PathLike object, not list"
  | .unnamedLocale => Problem.list [⟨[.member "locale"], .notText⟩]
  | .refused message => message

end IntentLint
