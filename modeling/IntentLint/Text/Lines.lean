import IntentLint.Text.Basic

/-!
# `Text.Lines` — line ends and places in a text

A carriage return, alone or with the line feed after it, is read as one line feed. Places are counted from
the start of the text and within its lines; only a line feed ends a line.
-/

namespace IntentLint
namespace Text

/-- Reads line ends, knowing whether a carriage return came just before. -/
def unixLinesAfter (afterReturn : Bool) : Text → Text
  | [] => []
  | c :: rest =>
    if c = '\r' then CodePoint.ofChar '\n' :: unixLinesAfter true rest
    else if c = '\n' ∧ afterReturn then unixLinesAfter false rest
    else c :: unixLinesAfter false rest

/-- A text with every line end written as a line feed. -/
def unixLines (t : Text) : Text := unixLinesAfter false t

end Text

/-- A place in a text: how many code points come before it, its line and its column, both from one. -/
structure Position where
  offset : Nat
  line : Nat
  column : Nat
deriving DecidableEq

namespace Position

/-- The place that comes right after some text. -/
def after (before : Text) : Position :=
  ⟨before.length, before.count (CodePoint.ofChar '\n') + 1,
    (before.reverse.takeWhile (· ≠ CodePoint.ofChar '\n')).length + 1⟩

/-- The words for a place. -/
def words (p : Position) : Text :=
  "line " ++ Text.ofNat p.line ++ " column " ++ Text.ofNat p.column ++
    " (char " ++ Text.ofNat p.offset ++ ")"

end Position
end IntentLint
