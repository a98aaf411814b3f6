import IntentLint.Json.Basic

/-!
# `Problem` — what is wrong with a document, and readings that report all of it

A reading turns a document into a value or into the list of its problems. A reading of several parts reads
every part, so no problem hides another; the problems stand in the order of the parts. Each problem carries
the steps that lead to it from the root of the document.
-/

namespace IntentLint

/-- The records that a document can stand for. -/
inductive RecordKind where
  | languageModel
  | intent
  | entityType
  | structuredValue
  | finding
deriving DecidableEq

/-- A step from a document to one of its parts. -/
inductive Step where
  | member (name : Text)
  | item (index : Nat)
  /-- An entity value, read as a bare text. -/
  | bare
  /-- An entity value, read as a record. -/
  | structured
deriving DecidableEq

/-- What a part of a document should have been. -/
inductive Defect where
  | missing
  | notText
  | notList
  | notTable
  | notRecord (kind : RecordKind)
  | notOneOf (names : List Text)
  | notBoolean
deriving DecidableEq

/-- A defect and the steps to it. -/
structure Problem where
  path : List Step
  defect : Defect
deriving DecidableEq

/-- A value, or everything that is wrong with the document. -/
abbrev Reading (α : Type) := Except (List Problem) α

/-! ## Wording -/

/-- The name of a record kind in messages. -/
def RecordKind.name : RecordKind → Text
  | .languageModel => "LanguageModel"
  | .intent => "Intent"
  | .entityType => "EntityType"
  | .structuredValue => "StructuredEntityValue"
  | .finding => "LintWarning"

/-- A name as a path shows it. The three octets that stand for a lone surrogate are no character of UTF-8, and
each of them shows as a replacement character. -/
def Step.shownName (name : Text) : Text :=
  name.flatMap fun c => if c.isSurrogate then List.replicate 3 (CodePoint.ofChar '\uFFFD') else [c]

/-- A step as a part of a path. -/
def Step.words : Step → Text
  | .member name => shownName name
  | .item index => Text.ofNat index
  | .bare => "str"
  | .structured => RecordKind.structuredValue.name

/-- Names in single quotes, with commas between them and an `or` before the last. -/
def Defect.alternatives : List Text → Text
  | [] => []
  | [a] => "'" ++ a ++ "'"
  | [a, b] => "'" ++ a ++ "' or '" ++ b ++ "'"
  | a :: rest => "'" ++ a ++ "', " ++ alternatives rest

/-- The words for a defect. -/
def Defect.words : Defect → Text
  | .missing => "Field required"
  | .notText => "Input should be a valid string"
  | .notList => "Input should be a valid list"
  | .notTable => "Input should be a valid dictionary"
  | .notRecord kind => "Input should be a valid dictionary or instance of " ++ kind.name
  | .notOneOf names => "Input should be " ++ alternatives names
  | .notBoolean => "Input should be a valid boolean, unable to interpret input"

namespace Problem

/-- The path of a problem; the root has a name of its own. -/
def place (p : Problem) : Text :=
  match Text.join "." (p.path.map Step.words) with
  | [] => "<root>"
  | path => path

/-- The words for a problem. -/
def words (p : Problem) : Text := p.place ++ ": " ++ p.defect.words

/-- The words for a list of problems. -/
def list (ps : List Problem) : Text := Text.join "; " (ps.map words)

/-- A problem of a part, seen from the whole. -/
def under (step : Step) (p : Problem) : Problem := { p with path := step :: p.path }

end Problem

/-! ## Readings -/

namespace Reading

/-- The reading that finds one defect at the root. -/
def refuse (defect : Defect) : Reading α := .error [⟨[], defect⟩]

/-- A reading of a part, seen from the whole. -/
def under (step : Step) (r : Reading α) : Reading α := r.mapError (·.map (Problem.under step))

/-- Two readings; the problems of both when either fails. -/
def both (a : Reading α) (b : Reading β) : Reading (α × β) :=
  match a, b with
  | .ok x, .ok y => .ok (x, y)
  | .error ps, .ok _ => .error ps
  | .ok _, .error qs => .error qs
  | .error ps, .error qs => .error (ps ++ qs)

/-- Readings one after the other; the problems of all when any fails. -/
def all : List (Reading α) → Reading (List α)
  | [] => .ok []
  | r :: rs => (both r (all rs)).map fun (x, xs) => x :: xs

/-! ### Kinds of documents -/

/-- Reads a text. -/
def text : Json → Reading Text
  | .text t => .ok t
  | _ => refuse .notText

/-- Reads a list, item by item. -/
def list (item : Json → Reading α) : Json → Reading (List α)
  | .array items => all (items.mapIdx fun i v => (item v).under (.item i))
  | _ => refuse .notList

/-- Reads an object whose members all have the same form. -/
def table (value : Json → Reading α) : Json → Reading (List (Text × α))
  | .object members =>
    all (members.map fun (name, v) => ((value v).under (.member name)).map fun x => (name, x))
  | _ => refuse .notTable

/-- Reads what may be null. -/
def optional (read : Json → Reading α) : Json → Reading (Option α)
  | .null => .ok none
  | v => (read v).map some

/-- Reads a member that must be there. -/
def required (name : Text) (read : Json → Reading α) (members : List (Text × Json)) : Reading α :=
  match Entries.get? name members with
  | some v => (read v).under (.member name)
  | none => (refuse .missing).under (.member name)

/-- Reads a member that may be absent or null. -/
def possible (name : Text) (read : Json → Reading α) (members : List (Text × Json)) :
    Reading (Option α) :=
  match Entries.get? name members with
  | some v => (optional read v).under (.member name)
  | none => .ok none

end Reading
end IntentLint
