import IntentLint.Text.CodePoint

/-!
# `Text.Basic` — texts as lists of code points

Every name, phrase and message is a `Text`. A string literal can stand wherever a text is expected.

Contents: literals and conversion; decimal and hexadecimal numerals; layout; order and letters; parts.
-/

namespace IntentLint

/-- A text: its code points in order. -/
abbrev Text := List CodePoint

namespace Text

/-- The code points of a string. -/
def ofString (s : String) : Text := s.toList.map CodePoint.ofChar

instance : Coe String Text := ⟨ofString⟩

/-- The string of a text; the replacement character stands for a lone surrogate. -/
def toString (t : Text) : String :=
  String.ofList (t.map fun c => if c.isSurrogate then '\uFFFD' else Char.ofNat c.val)

/-! ## Numerals -/

/-- The decimal numeral of a natural number. -/
def ofNat (n : Nat) : Text := (Nat.toDigits 10 n).map CodePoint.ofChar

/-- The decimal numeral of an integer, with a leading minus sign when it is negative. -/
def ofInt (n : Int) : Text :=
  if n < 0 then CodePoint.ofChar '-' :: ofNat n.natAbs else ofNat n.natAbs

/-- The last `digits` hexadecimal digits of `n`, in lower case. -/
def hex (digits n : Nat) : Text :=
  match digits with
  | 0 => []
  | k + 1 => CodePoint.ofHexValue (n / 16 ^ k % 16) :: hex k n

/-- The number that a run of ASCII digits denotes. -/
def digitsValue (t : Text) : Nat := t.foldl (fun n c => 10 * n + c.digitValue) 0

/-! ## Layout -/

/-- A text with a line feed after it. -/
def line (t : Text) : Text := t ++ [CodePoint.ofChar '\n']

/-- A text with spaces after it up to a width; a longer text is left alone. -/
def padded (width : Nat) (t : Text) : Text :=
  t ++ List.replicate (width - t.length) (CodePoint.ofChar ' ')

/-- Texts one after the other, with a separator between neighbours. -/
def join (separator : Text) (parts : List Text) : Text := List.intercalate separator parts

/-! ## Order and letters -/

/-- A text stands before another, or is the same, in the order of code points. -/
def precedes : Text → Text → Bool
  | [], _ => true
  | _ :: _, [] => false
  | a :: as, b :: bs => a.val < b.val || (a = b && precedes as bs)

/-- A text with its ASCII letters in lower case. -/
def lowerAscii (t : Text) : Text :=
  t.map fun c => if 0x41 ≤ c.val ∧ c.val ≤ 0x5A then CodePoint.ofNat (c.val + 0x20) else c

/-! ## Parts -/

/-- The parts of a text between the occurrences of a code point. -/
def splitAt (mark : CodePoint) : Text → List Text
  | [] => [[]]
  | c :: rest =>
    if c = mark then [] :: splitAt mark rest
    else
      match splitAt mark rest with
      | [] => [[c]]
      | part :: parts => (c :: part) :: parts

/-- The part of a text before the first occurrence of a code point and the part after it, if it occurs. -/
def splitAtFirst? (mark : CodePoint) : Text → Option (Text × Text)
  | [] => none
  | c :: rest =>
    if c = mark then some ([], rest)
    else (splitAtFirst? mark rest).map fun (before, after) => (c :: before, after)

end Text
end IntentLint
