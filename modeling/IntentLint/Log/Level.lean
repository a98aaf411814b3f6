import IntentLint.Entries
import IntentLint.Text.Basic

/-!
# `Log.Level` — how serious a log entry is

A threshold lets through the entries at its level and above. A threshold is chosen by name, in any case; a
name that no level has chooses `info`. Two names are reserved by the log for other things than levels, and
choosing one of them fails.
-/

namespace IntentLint

/-- The levels, from the threshold that lets everything through. -/
inductive Level where
  | notset
  | debug
  | info
  | warning
  | error
  | critical
deriving DecidableEq

namespace Level

/-- The place of a level in the order of levels. -/
def rank : Level → Nat
  | .notset => 0
  | .debug => 10
  | .info => 20
  | .warning => 30
  | .error => 40
  | .critical => 50

/-- An entry of a level passes a threshold. -/
def passes (level threshold : Level) : Bool := threshold.rank ≤ level.rank

/-- The name of a level in log lines. -/
def name : Level → Text
  | .notset => "notset"
  | .debug => "debug"
  | .info => "info"
  | .warning => "warning"
  | .error => "error"
  | .critical => "critical"

end Level

/-! ## Choosing a threshold -/

/-- A name that the log has for something else than a level. -/
inductive ReservedName where
  /-- The template of a line. -/
  | template
  /-- The table of styles. -/
  | styles
deriving DecidableEq

/-- The message of a choice that fails. -/
def ReservedName.message : ReservedName → Text
  | .template => "'%(levelname)s:%(name)s:%(message)s'"
  | .styles => "unhashable type: 'dict'"

namespace Level

/-- The names that do not choose `info` for want of a meaning. -/
def byName : List (Text × Except ReservedName Level) :=
  [("critical", .ok .critical), ("fatal", .ok .critical), ("error", .ok .error),
   ("warning", .ok .warning), ("warn", .ok .warning), ("info", .ok .info), ("debug", .ok .debug),
   ("notset", .ok .notset), ("basic_format", .error .template), ("_styles", .error .styles)]

/-- Code points outside ASCII whose capital form consists of ASCII letters, with the small letters of that
form. -/
def asciiCapitals : List (Nat × Text) :=
  [(0xDF, "ss"), (0x131, "i"), (0x17F, "s"), (0xFB00, "ff"), (0xFB01, "fi"), (0xFB02, "fl"),
   (0xFB03, "ffi"), (0xFB04, "ffl"), (0xFB05, "st"), (0xFB06, "st")]

/-- The form of a name in which its case does not count. -/
def foldCase (name : Text) : Text :=
  Text.lowerAscii (name.flatMap fun c => (Entries.get? c.val asciiCapitals).getD [c])

/-- The threshold of a name. -/
def ofName (name : Text) : Except ReservedName Level :=
  (Entries.get? (foldCase name) byName).getD (.ok .info)

end Level
end IntentLint
