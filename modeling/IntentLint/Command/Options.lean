import IntentLint.Settings.Scope
import IntentLint.Text.Quoted
import IntentLint.Text.Space

/-!
# `Command.Options` — what a command line asks for

Options are recognised by their full name or by the start of it, if no other option starts so. A value stands
after an equals sign or as the next word; a word that looks like an option is no value, unless it looks like a
negative number. After two dashes alone no word is an option. Words that are neither options nor values are
refused, but only at the end: asking for help comes first when it stands first.

A value of two dashes alone is no value: what the option should name stays without a name.

Contents: options; recognising words; following them; wording.
-/

namespace IntentLint

/-- How reports are written. -/
inductive OutputFormat where
  | text
  | json
  /-- The option was left without a name: only the errors of locales are written. -/
  | unnamed
deriving DecidableEq

/-- What a command line asks for. Where it gives an option but leaves the name out, the name is `none`. -/
structure Options where
  locales : Option (List (Option Text))
  modelsDir : Option (Option Text)
  format : OutputFormat
  strict : Bool
deriving DecidableEq

/-- The options of the command. -/
inductive Switch where
  | help
  | modelsDir
  | locale
  | format
  | strict
deriving DecidableEq

/-- Why a command line is refused. -/
inductive Misuse where
  | ambiguous (word : Text) (candidates : List Text)
  | expectedValue (option : Switch)
  | ignoredValue (option : Switch) (value : Text)
  | invalidChoice (option : Switch) (value : Text) (choices : List Text)
  | unrecognized (words : List Text)
deriving DecidableEq

/-- Why a command line leads to no run. -/
inductive OptionStop where
  | help
  | misuse (fault : Misuse)
deriving DecidableEq

namespace Switch

/-- The spellings of the options. -/
def spellings : List (Text × Switch) :=
  [("-h", .help), ("--help", .help), ("--models-dir", .modelsDir), ("--locale", .locale),
   ("--format", .format), ("--strict", .strict)]

/-- The option takes a value. -/
def takesValue : Switch → Bool
  | .help => false
  | .strict => false
  | _ => true

/-- The spellings of an option. -/
def names (option : Switch) : List Text := (spellings.filter (·.2 = option)).map (·.1)

/-- The spellings of an option, with slashes between them. -/
def words (option : Switch) : Text := Text.join "/" option.names

end Switch

namespace OutputFormat

/-- The formats by name. -/
def byName : List (Text × OutputFormat) := [("text", .text), ("json", .json)]

end OutputFormat

namespace Options

/-- The options of the empty command line. -/
def default : Options := ⟨none, none, .text, false⟩

/-- The scope that is asked for, if no name in it was left out. -/
def scope? (options : Options) : Option Scope :=
  let locales? : Option (Option (List Text)) :=
    match options.locales with
    | none => some none
    | some names => (names.mapM id).map some
  let modelsDir? : Option (Option Text) :=
    match options.modelsDir with
    | none => some none
    | some dir? => dir?.map some
  locales?.bind fun locales => modelsDir?.map fun modelsDir => ⟨locales, modelsDir⟩

/-! ## Recognising words -/

/-- What a word on the command line is. -/
inductive Word where
  | option (option : Switch) (value : Option Text)
  /-- The letter of help behind a single dash, with more after it. -/
  | helpLetter (more : Text)
  /-- A word that has the form of an option and is none. -/
  | unknown (word : Text)
  | plain (word : Text)
  /-- Two dashes alone: no option follows. -/
  | terminator
deriving DecidableEq

/-- Minus and digits, perhaps with a point before the last ones. -/
def looksNegative (word : Text) : Bool :=
  let body (t : Text) : Bool :=
    match t with
    | [] => false
    | c :: rest =>
      c = '-' &&
        match rest.dropWhile CodePoint.isDecimal with
        | [] => !rest.isEmpty
        | d :: fraction => d = '.' && !fraction.isEmpty && fraction.all CodePoint.isDecimal
  body word || (word.getLast? = some (CodePoint.ofChar '\n') && body word.dropLast)

/-- The spellings that a word with two dashes abbreviates, and what the word then is; the part before an
equals sign counts. A word with one dash is help when it starts with the letter of help. -/
def completions (word : Text) : List (Text × Word) :=
  if List.isPrefixOf ("--" : Text) word then
    let (start, value) :=
      match Text.splitAtFirst? '=' word with
      | some (start, value) => (start, some value)
      | none => (word, none)
    (Switch.spellings.filter fun (spelling, _) => start.isPrefixOf spelling).map
      fun (spelling, option) => (spelling, .option option value)
  else if List.isPrefixOf ("-h" : Text) word then [("-h", .helpLetter (word.drop 2))]
  else []

/-- The option that a word spells in full, perhaps with a value. -/
def spelled? (word : Text) : Option Word :=
  match Entries.get? word Switch.spellings with
  | some option => some (.option option none)
  | none =>
    (Text.splitAtFirst? '=' word).bind fun (start, value) =>
      (Entries.get? start Switch.spellings).map fun option =>
        if start = ("-h" : Text) then .helpLetter value else .option option (some value)

/-- Recognises a word before any terminator. -/
def recognize (word : Text) : Except Misuse Word :=
  if !List.isPrefixOf ("-" : Text) word || word.length = 1 then .ok (.plain word)
  else
    match spelled? word with
    | some found => .ok found
    | none =>
      match completions word with
      | [(_, found)] => .ok found
      | [] =>
        if looksNegative word || word.contains (CodePoint.ofChar ' ') then .ok (.plain word)
        else .ok (.unknown word)
      | several => .error (.ambiguous word (several.map (·.1)))

/-- Recognises the words of a command line. -/
def recognizeAll : List Text → Except Misuse (List Word)
  | [] => .ok []
  | word :: rest =>
    if word = ("--" : Text) then .ok (.terminator :: rest.map .plain)
    else
      match recognize word with
      | .error fault => .error fault
      | .ok found => (recognizeAll rest).map (found :: ·)

/-! ## Following words -/

/-- The name that a value gives; two dashes alone give none. -/
def nameOf? (value : Text) : Option Text := if value = ("--" : Text) then none else some value

/-- Follows an option with a value. -/
def set (options : Options) (option : Switch) (value : Text) : Except Misuse Options :=
  match option with
  | .modelsDir => .ok { options with modelsDir := some (nameOf? value) }
  | .locale => .ok { options with locales := some (options.locales.getD [] ++ [nameOf? value]) }
  | .format =>
    match nameOf? value with
    | none => .ok { options with format := .unnamed }
    | some name =>
      match Entries.get? name OutputFormat.byName with
      | some format => .ok { options with format := format }
      | none => .error (.invalidChoice option value (OutputFormat.byName.map (·.1)))
  | _ => .error (.ignoredValue option value)

/-- Follows the letter of help with more after it: more of the same letter is help as well. -/
def followHelp (more : Text) : OptionStop :=
  match more.dropWhile (· = CodePoint.ofChar 'h') with
  | [] => if more.isEmpty then .misuse (.ignoredValue .help more) else .help
  | rest => .misuse (.ignoredValue .help rest)

/-- Follows the words of a command line. `extra` are the words that could not be used so far. -/
def follow (options : Options) (extra : List Text) : List Word → Except OptionStop Options
  | [] => if extra.isEmpty then .ok options else .error (.misuse (.unrecognized extra))
  | .plain word :: rest => follow options (extra ++ [word]) rest
  | .unknown word :: rest => follow options (extra ++ [word]) rest
  | .terminator :: rest => follow options (extra ++ [("--" : Text)]) rest
  | .option option (some value) :: rest =>
    if option.takesValue then
      match set options option value with
      | .ok options => follow options extra rest
      | .error fault => .error (.misuse fault)
    else .error (.misuse (.ignoredValue option value))
  | .helpLetter more :: _ => .error (followHelp more)
  | .option .help none :: _ => .error .help
  | .option .strict none :: rest => follow { options with strict := true } extra rest
  | .option option none :: .plain value :: rest =>
    match set options option value with
    | .ok options => follow options extra rest
    | .error fault => .error (.misuse fault)
  | .option option none :: _ => .error (.misuse (.expectedValue option))

/-- The options of a command line. -/
def parse (argv : List Text) : Except OptionStop Options :=
  match recognizeAll argv with
  | .error fault => .error (.misuse fault)
  | .ok words => follow default [] words

end Options

/-! ## Wording -/

/-- The message of a refusal. -/
def Misuse.message : Misuse → Text
  | .ambiguous word candidates =>
    "ambiguous option: " ++ word ++ " could match " ++ Text.join ", " candidates
  | .expectedValue option => "argument " ++ option.words ++ ": expected one argument"
  | .ignoredValue option value =>
    "argument " ++ option.words ++ ": ignored explicit argument " ++ value.quoted
  | .invalidChoice option value choices =>
    "argument " ++ option.words ++ ": invalid choice: " ++ value.quoted ++ " (choose from " ++
      Text.join ", " (choices.map Text.quoted) ++ ")"
  | .unrecognized words => "unrecognized arguments: " ++ Text.join " " words

end IntentLint
