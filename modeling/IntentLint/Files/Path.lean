import IntentLint.Text.Utf8

/-!
# `Files.Path` — where files are

A path is a root, which may be empty, and the names on the way from there. Slashes in a row count once and a
single dot counts for nothing; two dots are kept, since what they lead to depends on the file system. Two
slashes at the very start are a root of their own, different from one slash.

A file name is a row of octets. The code points U+DC80 to U+DCFF stand for single octets that are no UTF-8;
no other surrogate has octets.
-/

namespace IntentLint

/-- A root and the names that lead on from it. -/
structure Path where
  root : Text
  names : List Text
deriving DecidableEq

namespace Path

/-- The root that a text starts with. -/
def rootOf (t : Text) : Text :=
  match (t.takeWhile (· = CodePoint.ofChar '/')).length with
  | 0 => ""
  | 2 => "//"
  | _ => "/"

/-- The path that a text writes. -/
def ofText (t : Text) : Path :=
  ⟨rootOf t, (t.splitAt '/').filter fun name => name ≠ [] ∧ name ≠ ("." : Text)⟩

/-- One path and then another; a path with a root of its own starts over. -/
def join (a b : Path) : Path := if b.root = [] then ⟨a.root, a.names ++ b.names⟩ else b

/-- The text of a path; the empty path is a dot. -/
def text (p : Path) : Text :=
  match p.root ++ Text.join "/" p.names with
  | [] => "."
  | t => t

/-- Where the model of a locale is. -/
def ofModel (modelsDir locale : Text) : Path := (ofText modelsDir).join (ofText (locale ++ ".json"))

end Path

/-! ## Octets of a path -/

/-- A code point that stands for one octet of a file name. -/
def CodePoint.isRawOctet (c : CodePoint) : Bool := 0xDC80 ≤ c.val && c.val ≤ 0xDCFF

/-- The octets of a file name. -/
def Path.octets (t : Text) : Bytes :=
  t.flatMap fun c => if c.isRawOctet then [(c.val - 0xDC00).toUInt8] else Utf8.encodePoint c

/-- Why a text is the path of no file. -/
inductive PathFault where
  | embeddedNull
  /-- A row of surrogates without octets: the first of them, where it stands, and how many they are. -/
  | unencodable (first : CodePoint) (position count : Nat)
deriving DecidableEq

namespace PathFault

/-- The first row of surrogates without octets, in a text that starts at some position. -/
def surrogatesFrom? (position : Nat) : Text → Option PathFault
  | [] => none
  | c :: rest =>
    if c.isSurrogate && !c.isRawOctet then
      some (.unencodable c position ((c :: rest).takeWhile CodePoint.isSurrogate).length)
    else surrogatesFrom? (position + 1) rest

/-- What keeps a text from being the path of a file. -/
def ofText? (t : Text) : Option PathFault :=
  (surrogatesFrom? 0 t).or (if t.any (·.val = 0) then some .embeddedNull else none)

/-- The message of a fault. -/
def message : PathFault → Text
  | .embeddedNull => "embedded null byte"
  | .unencodable first position count =>
    "'utf-8' codec can't encode " ++
      (if count = 1 then
        "character '\\u" ++ Text.hex 4 first.val ++ "' in position " ++ Text.ofNat position
      else
        "characters in position " ++ Text.ofNat position ++ "-" ++ Text.ofNat (position + count - 1)) ++
      ": surrogates not allowed"

end PathFault
end IntentLint
