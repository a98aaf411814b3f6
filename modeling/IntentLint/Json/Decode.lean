import IntentLint.Json.Basic
import IntentLint.Text.Lines

/-!
# `Json.Decode` — documents from text

The grammar is that of JSON with the constants `NaN`, `Infinity` and `-Infinity` added and with lone
surrogates allowed as escapes. Of members with the same name the last one counts, in the place of the first.
Arrays and objects may be nested to any depth: a decoder on a limited stack gives up on deep nesting with an error
of its own, which is no fault here, and `decode` reads such a text like any other.

A scanner takes the text from some place on and returns what it read together with the rest, or stops. It
stops at the text from the fault on, and the place of the fault is the place where that text begins. Arrays
and objects are scanned with a bound on the number of nested calls; `decode` gives one that the length of the
text cannot exhaust.

Contents: faults; blanks; texts; numbers; values; the whole document; wording.
-/

namespace IntentLint
namespace Json

/-- What is wrong with a text that is no document. -/
inductive Fault where
  | expectedValue
  | expectedName
  | expectedColon
  | expectedComma
  | extraData
  | unterminatedText
  | controlCharacter
  | badEscape
  | badNumberedEscape
  | byteOrderMark
deriving DecidableEq

/-- Why scanning stops: a fault, with the text from there on, or an integer with too many digits. -/
inductive Stop where
  | malformed (fault : Fault) (rest : Text)
  | oversizedInteger (digits : Nat)

/-- What a scanner reads, and the text after it. -/
abbrev Scan (α : Type) := Except Stop (α × Text)

/-! ## Blanks and marks -/

/-- The four code points that may stand between the parts of a document. -/
def isSpace (c : CodePoint) : Bool := c = ' ' || c = '\t' || c = '\n' || c = '\r'

/-- The text from the first code point on that is no blank. -/
def skipSpace (t : Text) : Text := t.dropWhile isSpace

/-- The text after a mark, if it starts with that mark. -/
def after? (mark : CodePoint) : Text → Option Text
  | [] => none
  | c :: rest => if c = mark then some rest else none

/-! ## Texts -/

/-- A code point between quotes, and whether it was written as a numbered escape. -/
structure TextUnit where
  point : CodePoint
  numbered : Bool

/-- The code point of an escape of one letter. -/
def letterEscape? (c : CodePoint) : Option CodePoint :=
  if c = '"' ∨ c = '\\' ∨ c = '/' then some c
  else if c = 'b' then some '\x08'
  else if c = 'f' then some '\x0C'
  else if c = 'n' then some '\n'
  else if c = 'r' then some '\r'
  else if c = 't' then some '\t'
  else none

/-- The code point that four hexadecimal digits number. -/
def ofHexDigits? (a b c d : CodePoint) : Option CodePoint :=
  match a.hexValue?, b.hexValue?, c.hexValue?, d.hexValue? with
  | some a, some b, some c, some d => some (CodePoint.ofNat (((a * 16 + b) * 16 + c) * 16 + d))
  | _, _, _, _ => none

/-- Scans a text after its opening quote, up to and with its closing one. `opening` is the text from the
opening quote on. A numbered escape needs four digits and something after them. -/
def scanUnits (opening : Text) : Text → Scan (List TextUnit)
  | [] => .error (.malformed .unterminatedText opening)
  | c :: rest =>
    if c = '"' then .ok ([], rest)
    else if c = '\\' then
      match rest with
      | [] => .error (.malformed .unterminatedText opening)
      | e :: rest' =>
        if e = 'u' then
          match rest' with
          | h₁ :: h₂ :: h₃ :: h₄ :: next :: rest'' =>
            match ofHexDigits? h₁ h₂ h₃ h₄ with
            | some p =>
              (scanUnits opening (next :: rest'')).map fun (units, after) => (⟨p, true⟩ :: units, after)
            | none => .error (.malformed .badNumberedEscape (e :: rest'))
          | _ => .error (.malformed .badNumberedEscape (e :: rest'))
        else
          match letterEscape? e with
          | some p =>
            (scanUnits opening rest').map fun (units, after) => (⟨p, false⟩ :: units, after)
          | none => .error (.malformed .badEscape (c :: rest))
    else if c.val ≤ 0x1F then .error (.malformed .controlCharacter (c :: rest))
    else (scanUnits opening rest).map fun (units, after) => (⟨c, false⟩ :: units, after)

/-- The code points of a text: two numbered escapes that form a surrogate pair stand for one. -/
def joinPairs : List TextUnit → Text
  | [] => []
  | [u] => [u.point]
  | u :: v :: rest =>
    if u.numbered && v.numbered && u.point.isHighSurrogate && v.point.isLowSurrogate then
      CodePoint.ofSurrogates u.point v.point :: joinPairs rest
    else u.point :: joinPairs (v :: rest)

/-- Scans a text after its opening quote. -/
def scanText (opening rest : Text) : Scan Text :=
  (scanUnits opening rest).map fun (units, after) => (joinPairs units, after)

/-! ## Numbers -/

/-- The most digits an integer may have. -/
def maxIntegerDigits : Nat := 4300

/-- The digits before the point: a zero alone, or a run that starts with another digit. -/
def scanWhole? : Text → Option (Text × Text)
  | [] => none
  | c :: rest =>
    if c = '0' then some ([c], rest)
    else if c.isDigit then
      some (c :: rest.takeWhile CodePoint.isDigit, rest.dropWhile CodePoint.isDigit)
    else none

/-- The digits after a point, if a point with at least one digit follows. -/
def scanFraction? (t : Text) : Option (Text × Text) :=
  (after? '.' t).bind fun rest =>
    match rest.takeWhile CodePoint.isDigit with
    | [] => none
    | digits => some (digits, rest.dropWhile CodePoint.isDigit)

/-- An exponent, if one with at least one digit follows. -/
def scanExponent? (t : Text) : Option (Int × Text) :=
  ((after? 'e' t).or (after? 'E' t)).bind fun rest =>
    let (negative, rest) :=
      match after? '-' rest, after? '+' rest with
      | some rest', _ => (true, rest')
      | none, some rest' => (false, rest')
      | none, none => (false, rest)
    match rest.takeWhile CodePoint.isDigit with
    | [] => none
    | digits =>
      let size : Int := Text.digitsValue digits
      some (if negative then -size else size, rest.dropWhile CodePoint.isDigit)

/-- Scans a number. `t` is the text from its first code point on. -/
def scanNumber (t : Text) : Scan Number :=
  let (negative, unsigned) :=
    match after? '-' t with
    | some rest => (true, rest)
    | none => (false, t)
  match scanWhole? unsigned with
  | none => .error (.malformed .expectedValue t)
  | some (whole, rest) =>
    let (fraction?, rest) :=
      match scanFraction? rest with
      | some (digits, rest') => (some digits, rest')
      | none => (none, rest)
    let (exponent?, rest) :=
      match scanExponent? rest with
      | some (exponent, rest') => (some exponent, rest')
      | none => (none, rest)
    match fraction?, exponent? with
    | none, none =>
      if maxIntegerDigits < whole.length then .error (.oversizedInteger whole.length)
      else
        let size : Int := Text.digitsValue whole
        .ok (.integer (if negative then -size else size), rest)
    | _, _ =>
      let fraction := fraction?.getD []
      .ok (.decimal negative (Text.digitsValue (whole ++ fraction))
        (exponent?.getD 0 - fraction.length), rest)

/-! ## Values -/

/-- The values that are written as words. -/
def words : List (Text × Json) :=
  [("null", .null), ("true", .bool true), ("false", .bool false), ("NaN", .number .nan),
   ("Infinity", .number (.infinity false)), ("-Infinity", .number (.infinity true))]

/-- The value of a word at the start of a text. -/
def scanWord? (t : Text) : Option (Json × Text) :=
  words.findSome? fun (word, value) => (word.isPrefixOf? t).map fun rest => (value, rest)

mutual

/-- Scans a value at the start of a text. -/
def scanValue : Nat → Text → Scan Json
  | 0, t => .error (.malformed .expectedValue t)
  | _ + 1, [] => .error (.malformed .expectedValue [])
  | bound + 1, c :: rest =>
    if c = '"' then
      (scanText (c :: rest) rest).map fun (s, after) => (.text s, after)
    else if c = '{' then
      match after? '}' (skipSpace rest) with
      | some after => .ok (.object [], after)
      | none =>
        (scanMembers bound (skipSpace rest)).map fun (members, after) =>
          (.object (Entries.ofList members), after)
    else if c = '[' then
      match after? ']' (skipSpace rest) with
      | some after => .ok (.array [], after)
      | none => (scanItems bound (skipSpace rest)).map fun (items, after) => (.array items, after)
    else
      match scanWord? (c :: rest) with
      | some found => .ok found
      | none => (scanNumber (c :: rest)).map fun (n, after) => (.number n, after)

/-- Scans items up to and with the closing bracket; at least one must come. -/
def scanItems : Nat → Text → Scan (List Json)
  | 0, t => .error (.malformed .expectedValue t)
  | bound + 1, t =>
    match scanValue bound t with
    | .error stop => .error stop
    | .ok (item, rest) =>
      match after? ']' (skipSpace rest), after? ',' (skipSpace rest) with
      | some after, _ => .ok ([item], after)
      | none, some next =>
        (scanItems bound (skipSpace next)).map fun (items, after) => (item :: items, after)
      | none, none => .error (.malformed .expectedComma (skipSpace rest))

/-- Scans members up to and with the closing brace; at least one must come. -/
def scanMembers : Nat → Text → Scan (List (Text × Json))
  | 0, t => .error (.malformed .expectedName t)
  | _ + 1, [] => .error (.malformed .expectedName [])
  | bound + 1, c :: t =>
    if c = '"' then
      match scanText (c :: t) t with
      | .error stop => .error stop
      | .ok (name, rest) =>
        match after? ':' (skipSpace rest) with
        | none => .error (.malformed .expectedColon (skipSpace rest))
        | some rest =>
          match scanValue bound (skipSpace rest) with
          | .error stop => .error stop
          | .ok (value, rest) =>
            match after? '}' (skipSpace rest), after? ',' (skipSpace rest) with
            | some after, _ => .ok ([(name, value)], after)
            | none, some next =>
              (scanMembers bound (skipSpace next)).map fun (members, after) =>
                ((name, value) :: members, after)
            | none, none => .error (.malformed .expectedComma (skipSpace rest))
    else .error (.malformed .expectedName (c :: t))

end

/-! ## The whole document -/

/-- Scans a document: a value with blanks around it and nothing else, and no byte order mark in front. -/
def scanDocument (t : Text) : Except Stop Json :=
  match after? '\uFEFF' t with
  | some _ => .error (.malformed .byteOrderMark t)
  | none =>
    match scanValue (2 * t.length + 2) (skipSpace t) with
    | .error stop => .error stop
    | .ok (value, rest) =>
      match skipSpace rest with
      | [] => .ok value
      | extra => .error (.malformed .extraData extra)

/-- Why a text gives no document. -/
inductive DecodeError where
  | malformed (fault : Fault) (position : Position)
  | oversizedInteger (digits : Nat)
deriving DecidableEq

/-- The error of a stop inside a text: a fault stands where the rest of the text begins. -/
def Stop.error (t : Text) : Stop → DecodeError
  | .malformed fault rest => .malformed fault (Position.after (t.take (t.length - rest.length)))
  | .oversizedInteger digits => .oversizedInteger digits

/-- The document that a text writes. -/
def decode (t : Text) : Except DecodeError Json := (scanDocument t).mapError (Stop.error t)

/-! ## Wording -/

/-- The words for a fault. -/
def Fault.words : Fault → Text
  | .expectedValue => "Expecting value"
  | .expectedName => "Expecting property name enclosed in double quotes"
  | .expectedColon => "Expecting ':' delimiter"
  | .expectedComma => "Expecting ',' delimiter"
  | .extraData => "Extra data"
  | .unterminatedText => "Unterminated string starting at"
  | .controlCharacter => "Invalid control character at"
  | .badEscape => "Invalid \\escape"
  | .badNumberedEscape => "Invalid \\uXXXX escape"
  | .byteOrderMark => "Unexpected UTF-8 BOM (decode using utf-8-sig)"

/-- The message of a fault at a place. -/
def Fault.message (fault : Fault) (position : Position) : Text := fault.words ++ ": " ++ position.words

/-- The message of an integer with too many digits. -/
def oversizedMessage (digits : Nat) : Text :=
  "Exceeds the limit (" ++ Text.ofNat maxIntegerDigits ++
    " digits) for integer string conversion: value has " ++ Text.ofNat digits ++
    " digits; use sys.set_int_max_str_digits() to increase the limit"

end Json
end IntentLint
