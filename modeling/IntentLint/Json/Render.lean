import IntentLint.Json.Basic

/-!
# `Json.Render` — documents as text

A document is written on one line, with a space after each comma and colon, or broken over lines, two spaces
a level. Text is written as it is or in ASCII alone; quotes, backslashes and controls are always escaped.
-/

namespace IntentLint
namespace Json

/-- How a document is laid out. -/
structure Style where
  /-- Everything outside printable ASCII is escaped. -/
  ascii : Bool
  /-- Every item and member has a line of its own. -/
  broken : Bool

namespace Style

/-- One line, ASCII only. -/
def line : Style := ⟨true, false⟩

/-- Broken over lines, text as it is. -/
def block : Style := ⟨false, true⟩

/-- The break before an item, a member or a closing bracket. -/
def lineBreak (style : Style) (depth : Nat) : Text :=
  if style.broken then
    CodePoint.ofChar '\n' :: List.replicate (2 * depth) (CodePoint.ofChar ' ')
  else []

/-- What stands between two items or members. -/
def separator (style : Style) (depth : Nat) : Text :=
  if style.broken then CodePoint.ofChar ',' :: style.lineBreak depth else ", "

end Style

/-! ## Texts and numbers -/

/-- The numbered escape of a code point: above 0xFFFF, of its surrogate pair. -/
def numberedEscape (c : CodePoint) : Text :=
  if c.val ≤ 0xFFFF then "\\u" ++ Text.hex 4 c.val
  else "\\u" ++ Text.hex 4 c.surrogates.1.val ++ "\\u" ++ Text.hex 4 c.surrogates.2.val

/-- A code point between quotes. -/
def renderPoint (ascii : Bool) (c : CodePoint) : Text :=
  if c = '"' then "\\\""
  else if c = '\\' then "\\\\"
  else if c = '\n' then "\\n"
  else if c = '\r' then "\\r"
  else if c = '\t' then "\\t"
  else if c = '\x0C' then "\\f"
  else if c = '\x08' then "\\b"
  else if c.val < 0x20 ∨ (ascii ∧ 0x7E < c.val) then numberedEscape c
  else [c]

/-- A text between quotes. -/
def renderText (ascii : Bool) (t : Text) : Text :=
  [CodePoint.ofChar '"'] ++ t.flatMap (renderPoint ascii) ++ [CodePoint.ofChar '"']

/-- A number. -/
def renderNumber : Number → Text
  | .integer n => Text.ofInt n
  | .decimal negative digits exponent =>
    (if negative then "-" else "") ++ Text.ofNat digits ++ "e" ++ Text.ofInt exponent
  | .infinity negative => if negative then "-Infinity" else "Infinity"
  | .nan => "NaN"

/-! ## Documents -/

mutual

/-- A document that stands at some depth. -/
def renderAt (style : Style) (depth : Nat) : Json → Text
  | .null => "null"
  | .bool value => if value then "true" else "false"
  | .number value => renderNumber value
  | .text value => renderText style.ascii value
  | .array [] => "[]"
  | .array (item :: items) =>
    "[" ++ style.lineBreak (depth + 1) ++ renderAt style (depth + 1) item ++
      renderItems style (depth + 1) items ++ style.lineBreak depth ++ "]"
  | .object [] => "\x7b\x7d"
  | .object ((name, value) :: members) =>
    "\x7b" ++ style.lineBreak (depth + 1) ++
      (renderText style.ascii name ++ ": " ++ renderAt style (depth + 1) value) ++
      renderMembers style (depth + 1) members ++ style.lineBreak depth ++ "\x7d"

/-- Items after the first. -/
def renderItems (style : Style) (depth : Nat) : List Json → Text
  | [] => []
  | item :: items => style.separator depth ++ renderAt style depth item ++ renderItems style depth items

/-- Members after the first. -/
def renderMembers (style : Style) (depth : Nat) : List (Text × Json) → Text
  | [] => []
  | (name, value) :: members =>
    style.separator depth ++ (renderText style.ascii name ++ ": " ++ renderAt style depth value) ++
      renderMembers style depth members

end

/-- The text of a document. -/
def render (style : Style) (document : Json) : Text := renderAt style 0 document

end Json
end IntentLint
