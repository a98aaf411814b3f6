import IntentLint.Text.Basic

/-!
# `Text.Wrap` — texts on lines of limited width

A text is a row of words with blanks between them. A line takes as many words as there is room for; a word
that is longer than a whole line is cut where the line is full. Blanks at the ends of lines are dropped.
-/

namespace IntentLint
namespace Text

/-- A run of blanks, which may be empty. -/
def isBlankRun (t : Text) : Bool := t.all (· = CodePoint.ofChar ' ')

/-- The words of a text with the blanks between them. -/
def chunks (t : Text) : List Text := (t.splitAt ' ').intersperse " "

/-- The chunks that fit into a room, and the others. -/
def takeFitting (room : Nat) : List Text → List Text × List Text
  | [] => ([], [])
  | c :: rest =>
    if c.length ≤ room then
      let (taken, left) := takeFitting (room - c.length) rest
      (c :: taken, left)
    else ([], c :: rest)

/-- The chunks of one line, and the others: those that fit, and as much as there is room for of a chunk that
fits on no line. -/
def takeLine (width : Nat) (chunks : List Text) : List Text × List Text :=
  let (taken, left) := takeFitting width chunks
  match left with
  | [] => (taken, [])
  | c :: rest =>
    if width < c.length then
      let room := width - taken.flatten.length
      (taken ++ [c.take room], c.drop room :: rest)
    else (taken, c :: rest)

/-- Chunks without a last one that is blank. -/
def dropBlankEnd (chunks : List Text) : List Text :=
  match chunks.getLast? with
  | some c => if isBlankRun c then chunks.dropLast else chunks
  | none => []

/-- Chunks without a first one that is blank. -/
def dropBlankStart : List Text → List Text
  | [] => []
  | c :: rest => if isBlankRun c then rest else c :: rest

/-- The lines of some chunks, at most as many as the bound. -/
def linesUpTo (width : Nat) : Nat → List Text → List Text
  | 0, _ => []
  | _, [] => []
  | bound + 1, chunks =>
    let (taken, left) := takeLine width chunks
    match dropBlankEnd taken with
    | [] => linesUpTo width bound (dropBlankStart left)
    | kept => kept.flatten :: linesUpTo width bound (dropBlankStart left)

/-- A text on lines of a width above zero. -/
def wrap (width : Nat) (t : Text) : List Text := linesUpTo width (t.length + 1) (chunks t)

end Text
end IntentLint
