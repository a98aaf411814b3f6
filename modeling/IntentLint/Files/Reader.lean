import IntentLint.Files.Path
import IntentLint.Text.Lines
import IntentLint.Text.Quoted

/-!
# `Files.Reader` — reading text files

The library sees the file system as a function from paths to octets. A text file is strict UTF-8; a byte
order mark stays in the text, and every line end becomes a line feed.
-/

namespace IntentLint

/-- Why a file cannot be opened. -/
inductive OpenFault where
  | notFound
  | notADirectory
  | isADirectory
  | nameTooLong
deriving DecidableEq

/-- The octets of the file at a path. -/
abbrev Reader := Text → Except OpenFault Bytes

/-- Why a file gives no text. -/
inductive FileFault where
  | unopened (fault : OpenFault)
  | undecodable (fault : Utf8.Fault)
deriving DecidableEq

/-- The text of a file with the given octets. -/
def textOfOctets (octets : Bytes) : Except Utf8.Fault Text := (Utf8.decode octets).map Text.unixLines

/-- The text of the file at a path. -/
def Reader.text (read : Reader) (path : Text) : Except FileFault Text :=
  match read path with
  | .error fault => .error (.unopened fault)
  | .ok octets => (textOfOctets octets).mapError .undecodable

/-! ## Wording -/

namespace OpenFault

/-- The number that the operating system gives a fault. -/
def number : OpenFault → Nat
  | .notFound => 2
  | .notADirectory => 20
  | .isADirectory => 21
  | .nameTooLong => 36

/-- The words that the operating system has for a fault. -/
def words : OpenFault → Text
  | .notFound => "No such file or directory"
  | .notADirectory => "Not a directory"
  | .isADirectory => "Is a directory"
  | .nameTooLong => "File name too long"

end OpenFault

/-- The message of a fault with the file at a path. -/
def FileFault.message (path : Text) : FileFault → Text
  | .unopened fault =>
    "[Errno " ++ Text.ofNat fault.number ++ "] " ++ fault.words ++ ": " ++ path.quoted
  | .undecodable fault => fault.message

end IntentLint
