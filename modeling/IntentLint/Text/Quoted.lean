import IntentLint.Text.Basic
import IntentLint.Text.Printable

/-!
# `Text.Quoted` — a text between quotes

Single quotes stand around a text, or double quotes when it holds a single quote and no double one. The
quote in use and the backslash take a backslash; tab, line feed and carriage return have names; any other
code point without a visible form is written by its number in two, four or eight hexadecimal digits.
-/

namespace IntentLint
namespace Text

/-- The quote that stands around a text. -/
def quoteMark (t : Text) : CodePoint :=
  if t.contains (CodePoint.ofChar '\'') && !t.contains (CodePoint.ofChar '"') then '"' else '\''

/-- The number of a code point as an escape. -/
def numberEscape (c : CodePoint) : Text :=
  if c.val ≤ 0xFF then "\\x" ++ hex 2 c.val
  else if c.val ≤ 0xFFFF then "\\u" ++ hex 4 c.val
  else "\\U" ++ hex 8 c.val

/-- A code point as it stands between quotes. -/
def quotedPoint (mark c : CodePoint) : Text :=
  if c = mark ∨ c = '\\' then ['\\', c]
  else if c = '\t' then "\\t"
  else if c = '\n' then "\\n"
  else if c = '\r' then "\\r"
  else if c.isPrintable then [c]
  else numberEscape c

/-- A text between quotes. -/
def quoted (t : Text) : Text :=
  [quoteMark t] ++ t.flatMap (quotedPoint (quoteMark t)) ++ [quoteMark t]

end Text
end IntentLint
