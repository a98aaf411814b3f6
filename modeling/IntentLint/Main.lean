import IntentLint.Command.Run

/-!
# `Main` — the command

Reads the environment, the settings file and the model files, and writes what the run comes to.
-/

namespace IntentLint

/-- The fault of an error that the operating system reports. -/
def OpenFault.ofError : IO.Error → OpenFault
  | .inappropriateType _ code _ => if code = 21 then .isADirectory else .notADirectory
  | .invalidArgument _ code _ => if code = 36 then .nameTooLong else .notFound
  | _ => .notFound

/-- The octets of the file at a path. -/
def readOctets (path : Text) : IO (Except OpenFault Bytes) := do
  try
    return .ok (← IO.FS.readBinFile path.toString).toList
  catch error =>
    return .error (OpenFault.ofError error)

/-- The variables that an environment lists, each closed by a null. -/
def variablesOf (environment : Text) : List (Text × Text) :=
  (environment.splitAt '\x00').filterMap (Text.splitAtFirst? '=')

/-- The variables of the environment; where it cannot be listed, those that settings are named after. -/
def readVariables : IO (List (Text × Text)) := do
  match (← readOctets "/proc/self/environ").toOption.bind fun octets => (Utf8.decode octets).toOption with
  | some environment => return variablesOf environment
  | none =>
    ["MODELS_DIR", "LOCALES", "DEBUG", "LOG_LEVEL"].filterMapM fun name => do
      return (← IO.getEnv name).map fun value => (Text.ofString name, Text.ofString value)

/-- The surroundings of the process. -/
def readSurroundings : IO Surroundings := do
  let settingsFile ← readOctets Settings.fileName
  return ⟨← readVariables, settingsFile.toOption⟩

end IntentLint

open IntentLint in
/-- Runs the command with the arguments of the process. -/
def main (args : List String) : IO UInt32 := do
  let argv := args.map Text.ofString
  let around ← readSurroundings
  let files ← (Command.paths around argv).mapM fun path => do return (path, ← readOctets path)
  let read : Reader := fun path => (Entries.get? path files).getD (.error .notFound)
  let output := Command.run Linter.standard read around (Text.ofNat (← IO.monoMsNow)) argv
  (← IO.getStdout).putStr output.stdout.toString
  let stderr ← IO.getStderr
  stderr.putStr output.stderr.toString
  match output.outcome with
  | .ok code => return code.number.toUInt32
  | .error failure =>
    stderr.putStr failure.message.line.toString
    return 1
