import IntentLint.Entries
import IntentLint.Text.Basic
import IntentLint.Text.Space

/-!
# `Settings.EnvFile` — variables in a settings file

A settings file holds statements `name = value`, one to a line. The word `export` may stand in front of a
name, and quotes around it. A value in single quotes is taken as it is, but for an escaped quote or
backslash; in double quotes the usual letter escapes count too; without quotes it ends at a comment or at the
end of the line. A name without an equals sign has no value. A line that is no statement is passed over, and
its number is kept. The last statement about a name counts. A byte order mark in front of the file is no part
of it.

A value may refer to a variable, `${name}` or `${name:-default}`: one set further up in the file, else one of
the environment.

Every line of the text ends in a line feed.

Contents: parts of a statement; values; statements and their lines; references.
-/

namespace IntentLint
namespace EnvFile

/-- A name and the value it is given, if there is an equals sign. -/
structure Binding where
  name : Text
  value : Option Text
deriving DecidableEq

/-- What a scanner reads and the text after it, or the text at which it got stuck. -/
abbrev Scan (α : Type) := Except Text (α × Text)

/-! ## Parts of a statement -/

/-- White space within a line. -/
def isInlineWhite (c : CodePoint) : Bool := c.isWhite && c ≠ '\n'

/-- The text after the white space that starts it, up to the end of the line. -/
def skipInline (t : Text) : Text := t.dropWhile isInlineWhite

/-- The text from the end of the line on. -/
def toLineEnd (t : Text) : Text := t.dropWhile (· ≠ CodePoint.ofChar '\n')

/-- The text after the word `export`, if white space follows the word. -/
def skipExport (t : Text) : Text :=
  match List.isPrefixOf? ("export" : Text) t with
  | some rest => if (rest.takeWhile isInlineWhite).isEmpty then t else skipInline rest
  | none => t

/-- A code point of a name without quotes. -/
def isNamePart (c : CodePoint) : Bool := c ≠ '=' && c ≠ '#' && !c.isWhite

/-- Scans a name; at a comment there is none. -/
def scanName (t : Text) : Scan (Option Text) :=
  match t with
  | [] => .error t
  | c :: rest =>
    if c = '#' then .ok (none, t)
    else if c = '\'' then
      match Text.splitAtFirst? '\'' rest with
      | some (c :: name, after) => .ok (some (c :: name), after)
      | _ => .error t
    else
      match t.takeWhile isNamePart with
      | [] => .error t
      | name => .ok (some name, t.dropWhile isNamePart)

/-! ## Values -/

/-- The text up to the closing quote, and the text after it. A backslash keeps the code point after it from
closing. -/
def closeQuote (mark : CodePoint) : Text → Option (Text × Text)
  | [] => none
  | [c] => if c = mark then some ([], []) else none
  | c :: d :: rest =>
    if c = mark then some ([], d :: rest)
    else if c = '\\' then (closeQuote mark rest).map fun (content, after) => (c :: d :: content, after)
    else (closeQuote mark (d :: rest)).map fun (content, after) => (c :: content, after)

/-- The escapes in single quotes. -/
def singleEscape? (c : CodePoint) : Option CodePoint :=
  if c = '\\' ∨ c = '\'' then some c else none

/-- The escapes in double quotes. -/
def doubleEscape? (c : CodePoint) : Option CodePoint :=
  if c = '\\' ∨ c = '\'' ∨ c = '"' then some c
  else if c = 'a' then some '\x07'
  else if c = 'b' then some '\x08'
  else if c = 'f' then some '\x0C'
  else if c = 'n' then some '\n'
  else if c = 'r' then some '\r'
  else if c = 't' then some '\t'
  else if c = 'v' then some '\x0B'
  else none

/-- A text with its escapes resolved; a backslash before anything else stays. -/
def unescape (escape? : CodePoint → Option CodePoint) : Text → Text
  | [] => []
  | [c] => [c]
  | c :: d :: rest =>
    if c = '\\' then
      match escape? d with
      | some e => e :: unescape escape? rest
      | none => c :: unescape escape? (d :: rest)
    else c :: unescape escape? (d :: rest)

/-- A value without the comment that white space and a number sign start. -/
def cutComment : Text → Text
  | [] => []
  | c :: rest =>
    if c.isWhite && ((c :: rest).dropWhile CodePoint.isWhite).head? = some (CodePoint.ofChar '#') then []
    else c :: cutComment rest

/-- A text without the white space at its end. -/
def dropTrailingWhite (t : Text) : Text := (t.reverse.dropWhile CodePoint.isWhite).reverse

/-- Scans a value, from the equals sign on. A comment may stand there in place of a value. -/
def scanValue (t : Text) : Scan Text :=
  match skipInline t with
  | [] => .ok ([], [])
  | c :: rest =>
    if c = '\'' ∨ c = '"' then
      match closeQuote c rest with
      | some (content, after) =>
        .ok (unescape (if c = '"' then doubleEscape? else singleEscape?) content, after)
      | none => .error (c :: rest)
    else
      let line := t.takeWhile (· ≠ CodePoint.ofChar '\n')
      .ok (dropTrailingWhite (skipInline (cutComment line)), toLineEnd t)

/-! ## Statements and their lines -/

/-- Scans the rest of a line after a statement: perhaps a comment, and the end of the line. -/
def scanLineEnd (t : Text) : Scan Unit :=
  let t :=
    match skipInline t with
    | c :: rest => if c = '#' then toLineEnd rest else t
    | [] => t
  match skipInline t with
  | [] => .ok ((), [])
  | c :: rest => if c = '\n' then .ok ((), rest) else .error t

/-- Scans an equals sign with a value after it, if one is there. -/
def scanAssignment (t : Text) : Scan (Option Text) :=
  match t with
  | [] => .ok (none, t)
  | c :: rest =>
    if c = '=' then (scanValue rest).map fun (value, after) => (some value, after)
    else .ok (none, t)

/-- Scans a statement or a comment, with the end of its line. -/
def scanStatement (t : Text) : Scan (Option Binding) :=
  (scanName (skipExport t)).bind fun (name?, t) =>
    (scanAssignment (skipInline t)).bind fun (value, t) =>
      (scanLineEnd t).map fun (_, t) => (name?.map fun name => ⟨name, value⟩, t)

/-- What stands in a settings file. -/
inductive Statement where
  | binding (binding : Binding)
  | comment
  /-- A line that is no statement, or the lines of a text in quotes with more after it. -/
  | unreadable (line : Nat)
deriving DecidableEq

namespace Statement

/-- The binding of a statement. -/
def binding? : Statement → Option Binding
  | .binding b => some b
  | _ => none

/-- The line of a statement that cannot be read. -/
def unreadableLine? : Statement → Option Nat
  | .unreadable line => some line
  | _ => none

end Statement

/-- The first statement of a text that starts in some line, and the text after it. -/
def readStatement (line : Nat) (t : Text) : Statement × Text :=
  match scanStatement t with
  | .ok (some binding, rest) => (.binding binding, rest)
  | .ok (none, rest) => (.comment, rest)
  | .error rest => (.unreadable line, (toLineEnd rest).drop 1)

/-- The number of lines that end in a text. -/
def lineEnds (t : Text) : Nat := t.count (CodePoint.ofChar '\n')

/-- The statements of a text that starts in some line, at most as many as the bound. A statement starts where
the one before it ends, so blank lines above it are its own. -/
def statementsUpTo : Nat → Nat → Text → List Statement
  | 0, _, _ => []
  | bound + 1, line, t =>
    match t.dropWhile CodePoint.isWhite with
    | [] => []
    | start =>
      let (statement, rest) := readStatement line start
      statement :: statementsUpTo bound (line + (lineEnds t - lineEnds rest)) rest

/-- A text without the byte order mark in front of it. -/
def dropMark : Text → Text
  | [] => []
  | c :: rest => if c = '\uFEFF' then rest else c :: rest

/-- The statements of a text. -/
def statements (t : Text) : List Statement := statementsUpTo (t.length + 1) 1 (dropMark t)

/-- The bindings of a text. -/
def bindings (t : Text) : List Binding := (statements t).filterMap Statement.binding?

/-- The lines of a text with statements that cannot be read. -/
def unreadableLines (t : Text) : List Nat := (statements t).filterMap Statement.unreadableLine?

/-! ## References -/

/-- The name and the default of a reference, and the text after it, from after the opening brace on. -/
def scanReference? (t : Text) : Option (Text × Text × Text) :=
  let isPart : CodePoint → Bool := fun c => c ≠ '}' && c ≠ ':'
  match t.dropWhile isPart with
  | [] => none
  | c :: rest =>
    if c = '}' then some (t.takeWhile isPart, [], rest)
    else
      match rest with
      | [] => none
      | d :: rest' =>
        if d = '-' then
          (Text.splitAtFirst? '}' rest').map fun (default, after) =>
            (t.takeWhile isPart, default, after)
        else none

/-- A text with its references replaced, at most as many as the bound. A variable without a value is
empty. -/
def expandUpTo (lookUp : Text → Option (Option Text)) : Nat → Text → Text
  | 0, t => t
  | _ + 1, [] => []
  | bound + 1, c :: rest =>
    match if c = '$' ∧ rest.head? = some (CodePoint.ofChar '{') then scanReference? rest.tail else none with
    | some (name, default, after) =>
      (match lookUp name with
        | some value => value.getD []
        | none => default) ++ expandUpTo lookUp bound after
    | none => c :: expandUpTo lookUp bound rest

/-- The variables that statements set, in an environment. -/
def resolve (environment : List (Text × Text)) (bindings : List Binding) : Entries Text (Option Text) :=
  bindings.foldl (fun known binding =>
    let lookUp name :=
      (Entries.get? name known).or ((Entries.get? name environment).map some)
    Entries.put binding.name
      (binding.value.map fun value => expandUpTo lookUp (value.length + 1) value) known) []

/-- The variables that a settings file sets, in an environment. -/
def values (environment : List (Text × Text)) (t : Text) : Entries Text (Option Text) :=
  resolve environment (bindings t)

end EnvFile
end IntentLint
