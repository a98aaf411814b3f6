import IntentLint.Command.Options
import IntentLint.Text.Numeral
import IntentLint.Text.Wrap

/-!
# `Command.Help` — how the command is used, on a terminal of some width

The usage names the options in brackets; the help also says what the command and its options do. Both keep two
columns free at the right edge. Every explanation starts in the same column, on the line of its option if
there is room.

Contents: the texts; the width; the usage; the help.
-/

namespace IntentLint

/-! ## Texts -/

namespace Switch

/-- Every option, in the order in which they are explained. -/
def all : List Switch := [.help, .modelsDir, .locale, .format, .strict]

/-- The word that stands for the value of an option. -/
def valueName? : Switch → Option Text
  | .modelsDir => some "MODELS_DIR"
  | .locale => some "LOCALES"
  | .format => some ("\x7b" ++ Text.join "," (OutputFormat.byName.map (·.1)) ++ "\x7d")
  | _ => none

/-- A spelling with the word for its value. -/
def withValue (option : Switch) (name : Text) : Text :=
  match option.valueName? with
  | some value => name ++ " " ++ value
  | none => name

/-- An option as the usage shows it: the first spelling. -/
def bracketed (option : Switch) : Text :=
  "[" ++ (option.names.head?.map option.withValue).getD [] ++ "]"

/-- An option as the help shows it: every spelling. -/
def heading (option : Switch) : Text := Text.join ", " (option.names.map option.withValue)

/-- What an option does. -/
def purpose : Switch → Text
  | .help => "show this help message and exit"
  | .modelsDir => "Directory holding <locale>.json model files"
  | .locale => "Locale to lint (repeatable). Defaults to the LOCALES setting."
  | .format => "text: warnings on stderr; json: reports on stdout"
  | .strict => "Exit with 1 when any warning is found"

end Switch

namespace Command

/-- The name of the command. -/
def name : Text := "model-linter"

/-- What the command does. -/
def purpose : Text :=
  "Check language model files for duplicate phrases and values, stray whitespace and unbalanced " ++
  ("variable brackets" : Text)

/-- The mark in front of the usage. -/
def usageMark : Text := "usage: "

/-! ## Width -/

/-- The columns of a terminal when nothing better is known. -/
def defaultColumns : Nat := 80

/-- The columns of the terminal, as the environment tells them. -/
def columns (environment : List (Text × Text)) : Nat :=
  match (Entries.get? ("COLUMNS" : Text) environment).bind Text.toInt? with
  | some n => if 0 < n then n.toNat else defaultColumns
  | none => defaultColumns

/-- The columns that are written in. -/
def textWidth (columns : Nat) : Nat := columns - 2

/-- A row of blanks. -/
def blanks (n : Nat) : Text := List.replicate n (CodePoint.ofChar ' ')

/-! ## Usage -/

/-- Puts parts on lines, as many on each as fit. `used` columns of the first line are taken, some of them by
the parts that it has already; the other lines start with an indent. -/
def partLines (width indent : Nat) (used : Nat) (line : List Text) : List Text → List (List Text)
  | [] => if line.isEmpty then [] else [line]
  | part :: rest =>
    if width < used + part.length && !line.isEmpty then
      line :: partLines width indent (indent + part.length + 1) [part] rest
    else partLines width indent (used + part.length + 1) (line ++ [part]) rest

/-- How the command is used. -/
def usage (columns : Nat) : Text :=
  let width := textWidth columns
  let parts := Switch.all.map Switch.bracketed
  let start := usageMark ++ name
  let flat := start ++ " " ++ Text.join " " parts
  let indented (indent : Nat) (lines : List (List Text)) : Text :=
    Text.join ("\n" ++ blanks indent) (lines.map (Text.join " "))
  if flat.length ≤ width then flat.line
  else if 4 * start.length ≤ 3 * width then
    let indent := start.length + 1
    (usageMark ++ indented indent (partLines width indent usageMark.length [] (name :: parts))).line
  else
    let indent := usageMark.length
    (start ++ "\n" ++ blanks indent ++ indented indent (partLines width indent indent [] parts)).line

/-! ## Help -/

/-- The columns in front of an option. -/
def optionIndent : Nat := 2

/-- The column in which explanations start. -/
def purposeColumn (width : Nat) : Nat :=
  let longest := (Switch.all.map fun option => option.heading.length).foldl Nat.max 0
  Nat.min (optionIndent + longest + 2) (Nat.min 24 (Nat.max (width - 20) 4))

/-- The least columns that a text is put in. -/
def leastWidth : Nat := 11

/-- The lines about an option. -/
def optionLines (width : Nat) (option : Switch) : List Text :=
  let column := purposeColumn width
  let room := column - optionIndent - 2
  let lines := option.purpose.wrap (Nat.max (width - column) leastWidth)
  if option.heading.length ≤ room then
    (blanks optionIndent ++ option.heading.padded room ++ "  " ++ lines.head?.getD []) ::
      (lines.drop 1).map (blanks column ++ ·)
  else (blanks optionIndent ++ option.heading) :: lines.map (blanks column ++ ·)

/-- What the command and its options do. -/
def help (columns : Nat) : Text :=
  let width := textWidth columns
  usage columns ++ "\n" ++ (purpose.wrap (Nat.max width leastWidth)).flatMap Text.line ++ "\noptions:\n" ++
    (Switch.all.flatMap (optionLines width)).flatMap Text.line

end Command
end IntentLint
