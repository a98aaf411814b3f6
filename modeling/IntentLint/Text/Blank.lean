import IntentLint.Text.Basic
import IntentLint.Text.Ranges

/-!
# `Text.Blank` — blanks at the ends of a text

A blank is a tab, a line terminator, a space of any width or the byte order mark. The separators
U+001C to U+001F and U+0085 are no blanks. Trimming removes blanks at both ends and none inside.
-/

namespace IntentLint

/-- The ranges of blanks. -/
def blanks : Ranges :=
  [(0x9, 0xD), (0x20, 0x20), (0xA0, 0xA0), (0x1680, 0x1680), (0x2000, 0x200A), (0x2028, 0x2029),
   (0x202F, 0x202F), (0x205F, 0x205F), (0x3000, 0x3000), (0xFEFF, 0xFEFF)]

/-- A code point that trimming removes. -/
def CodePoint.isBlank (c : CodePoint) : Bool := blanks.contains c

namespace Text

/-- A text without its leading blanks. -/
def trimStart (t : Text) : Text := t.dropWhile CodePoint.isBlank

/-- A text without its trailing blanks. -/
def trimEnd : Text → Text
  | [] => []
  | c :: rest =>
    match trimEnd rest with
    | [] => if c.isBlank then [] else [c]
    | kept => c :: kept

/-- A text without the blanks at its two ends. -/
def trim (t : Text) : Text := trimEnd (trimStart t)

/-- A text that trimming changes. -/
def hasOuterBlank (t : Text) : Bool := decide (t ≠ trim t)

end Text
end IntentLint
