import IntentLint.Text.Basic
import IntentLint.Text.CaseTable

/-!
# `Text.Case` — the full lower-case form of a text

Every capital becomes its small letter, with two departures from one-for-one mapping: a dotted capital I
becomes an `i` with a combining dot, and a capital sigma becomes a final sigma when it ends a word.

A sigma ends a word when the nearest code point before it that is not case-ignorable is a cased letter and
the nearest such code point after it is not.
-/

namespace IntentLint
namespace CodePoint

/-- The lower-case form of a code point outside any context. -/
def lower (c : CodePoint) : Text :=
  if c.val = 0x130 then "i\u0307"
  else
    match capitals.find? fun run => run.covers c.val with
    | some run => [ofNat (run.lower c.val)]
    | none => [c]

/-- A code point that is passed over when looking for a cased neighbour. -/
def isCaseIgnorable (c : CodePoint) : Bool := caseIgnorable.contains c

/-- A cased letter that is not case-ignorable. -/
def isCased (c : CodePoint) : Bool := cased.contains c

end CodePoint

namespace Text

/-- The first code point that is not case-ignorable is a cased letter. -/
def startsCased (t : Text) : Bool :=
  match t.dropWhile CodePoint.isCaseIgnorable with
  | [] => false
  | c :: _ => c.isCased

/-- The small sigma for a capital one between two texts, the first of them given backwards. -/
def smallSigma (before after : Text) : CodePoint :=
  if startsCased before && !startsCased after then 'ς' else 'σ'

/-- The lower-case form of the rest of a text, after what comes before it, given backwards. -/
def lowerAfter (before : Text) : Text → Text
  | [] => []
  | c :: rest =>
    (if c = 'Σ' then [smallSigma before rest] else c.lower) ++ lowerAfter (c :: before) rest

/-- The lower-case form of a text. -/
def lower (t : Text) : Text := lowerAfter [] t

end Text
end IntentLint
