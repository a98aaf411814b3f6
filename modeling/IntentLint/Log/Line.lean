import IntentLint.Json.Render
import IntentLint.Log.Entry
import IntentLint.Text.Quoted

/-!
# `Log.Line` — log entries as lines

An entry is written as a document on one line, or in colour for a reader at a terminal. There the fields
stand in the order of their names, and a text stands without quotes when it is a plain word.
-/

namespace IntentLint

/-- How log entries are written. -/
inductive LogFormat where
  | document
  | console
deriving DecidableEq

namespace LogEntry

/-! ## As documents -/

/-- The fields that every line has at its end. -/
def closing (time : Text) (e : LogEntry) : List (Text × Json) :=
  [("event", .text e.event), ("level", .text e.level.name), ("timestamp", .text time)]

/-- The line of an entry as a document: its fields, then event, level and time. -/
def documentLine (time : Text) (e : LogEntry) : Text :=
  Json.render .line (.object (e.fields ++ closing time e))

/-! ## At a terminal -/

mutual

/-- A value as a literal. -/
def literal : Json → Text
  | .null => "None"
  | .bool value => if value then "True" else "False"
  | .number value => Json.renderNumber value
  | .text value => value.quoted
  | .array [] => "[]"
  | .array (item :: items) => "[" ++ literal item ++ literalItems items ++ "]"
  | .object [] => "\x7b\x7d"
  | .object ((name, value) :: members) =>
    "\x7b" ++ name.quoted ++ ": " ++ literal value ++ literalMembers members ++ "\x7d"

/-- Items after the first. -/
def literalItems : List Json → Text
  | [] => []
  | item :: items => ", " ++ literal item ++ literalItems items

/-- Members after the first. -/
def literalMembers : List (Text × Json) → Text
  | [] => []
  | (name, value) :: members =>
    ", " ++ name.quoted ++ ": " ++ literal value ++ literalMembers members

end

/-- A code point that keeps a text from standing without quotes. -/
def breaksWord (c : CodePoint) : Bool :=
  c = ' ' || c = '\t' || c = '=' || c = '\r' || c = '\n' || c = '"' || c = '\''

/-- The value of a field: a plain word as it is, anything else as a literal. -/
def consoleValue : Json → Text
  | .text value => if value.any breaksWord then value.quoted else value
  | value => literal value

/-- The terminal codes that lines use. -/
inductive Paint where
  | reset
  | bright
  | dim
  | red
  | green
  | magenta
  | cyan

/-- The escape sequence of a terminal code. -/
def Paint.code : Paint → Text
  | .reset => "\x1b[0m"
  | .bright => "\x1b[1m"
  | .dim => "\x1b[2m"
  | .red => "\x1b[31m"
  | .green => "\x1b[32m"
  | .magenta => "\x1b[35m"
  | .cyan => "\x1b[36m"

/-- A text in colours. -/
def painted (paints : List Paint) (t : Text) : Text :=
  paints.flatMap Paint.code ++ t ++ Paint.reset.code

/-- The colour of a level. -/
def levelPaint : Level → Paint
  | .error => .red
  | .critical => .red
  | .warning => .red
  | _ => .green

/-- The line of an entry at a terminal. -/
def consoleLine (time : Text) (e : LogEntry) : Text :=
  Text.join " "
    ([painted [.dim] time,
      "[" ++ painted [levelPaint e.level, .bright] (e.level.name.padded 9) ++ "]",
      painted [.bright] (e.event.padded 30)] ++
     (e.fields.mergeSort fun a b => a.1.precedes b.1).map fun (name, value) =>
       painted [.cyan] name ++ "=" ++ painted [.magenta] (consoleValue value))

/-- The line of an entry. -/
def line (format : LogFormat) (time : Text) (e : LogEntry) : Text :=
  match format with
  | .document => e.documentLine time
  | .console => e.consoleLine time

end LogEntry
end IntentLint
