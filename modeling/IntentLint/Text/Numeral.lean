import IntentLint.Text.Basic
import IntentLint.Text.Space

/-!
# `Text.Numeral` — whole numbers that a user writes

A numeral is a row of decimal digits of any script, perhaps with a sign in front and white space around it. An
underscore may stand between two digits.
-/

namespace IntentLint

/-- The value of a decimal digit. Digits come in rows of ten, and every range of them starts with a zero. -/
def CodePoint.decimalValue? (c : CodePoint) : Option Nat :=
  (decimalDigits.find? fun (first, last) => first ≤ c.val && c.val ≤ last).map fun (first, _) =>
    (c.val - first) % 10

namespace Text

/-- The most digits that a numeral may have. -/
def maxNumeralDigits : Nat := 4300

/-- White space that may stand around a numeral: all but the four separators of ASCII. -/
def isNumeralMargin (c : CodePoint) : Bool := c.isWhite && !(0x1C ≤ c.val && c.val ≤ 0x1F)

/-- The values of the digits of a numeral without its sign. -/
def digitValues? (t : Text) : Option (List Nat) :=
  let values (part : Text) : Option (List Nat) :=
    if part.isEmpty then none else part.mapM CodePoint.decimalValue?
  ((splitAt '_' t).mapM values).map List.flatten

/-- The number of a numeral without its sign. -/
def magnitude? (t : Text) : Option Nat :=
  (digitValues? t).bind fun digits =>
    if digits.length ≤ maxNumeralDigits then some (digits.foldl (fun n d => 10 * n + d) 0) else none

/-- The number that a text writes, if it is a numeral. -/
def toInt? (t : Text) : Option Int :=
  match ((t.dropWhile isNumeralMargin).reverse.dropWhile isNumeralMargin).reverse with
  | [] => none
  | c :: rest =>
    if c = '-' then (magnitude? rest).map fun n => -Int.ofNat n
    else (magnitude? (if c = '+' then rest else c :: rest)).map Int.ofNat

end Text
end IntentLint
