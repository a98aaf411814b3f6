import IntentLint.Entries
import IntentLint.Files.Reader

/-!
# `Files.Tree` — a directory of files as a value

A tree holds files and directories under the places where they are; the directories on the way to an entry are
there too. A path is followed name by name: each name but the last must lead to a directory. Names are rows of
octets: two texts with the same octets are the same name.

A place is the row of names that leads there. Places above the top of the tree start with two dots, and those
that are given from the root of all files start with a slash.
-/

namespace IntentLint

/-- What stands under a name. -/
inductive Node where
  | file (octets : Bytes)
  | directory
deriving DecidableEq

/-- The names that lead to a file or a directory. -/
abbrev Place := List Bytes

/-- Files and directories under their places, the latest first. -/
structure Tree where
  entries : List (Place × Node)

namespace Place

/-- Two dots as a name. -/
def up : Bytes := Path.octets ".."

/-- The root of all files. -/
def root : Place := [Path.octets "/"]

/-- Where a path starts. -/
def start (path : Path) : Place := if path.root = [] then [] else root

/-- The place that a name leads to. -/
def step (place : Place) (name : Bytes) : Place :=
  if name ≠ up then place ++ [name]
  else if place = root then root
  else
    match place.getLast? with
    | none => [up]
    | some last => if last = up then place ++ [up] else place.dropLast

/-- The places that names lead to, one after the other. -/
def trail (place : Place) : List Bytes → List Place
  | [] => []
  | name :: rest => step place name :: trail (step place name) rest

end Place

namespace Tree

/-- The tree with nothing in it. -/
def empty : Tree := ⟨[]⟩

/-- A tree with one more entry, in place of an earlier one at the same place. Every place on the way there is
a directory. -/
def add (tree : Tree) (path : Text) (node : Node) : Tree :=
  let path := Path.ofText path
  let trail := (Place.start path).trail (path.names.map Path.octets)
  ⟨trail.getLast?.toList.map (·, node) ++ trail.dropLast.map (·, Node.directory) ++ tree.entries⟩

/-- What stands at a place. -/
def node? (tree : Tree) (place : Place) : Option Node :=
  match Entries.get? place tree.entries with
  | some node => some node
  | none => if tree.entries.any fun (other, _) => place.isPrefixOf other then some .directory else none

/-- The octets of a file at the top of the tree, if one is there. -/
def topFile? (tree : Tree) (name : Text) : Option Bytes :=
  match tree.node? [Path.octets name] with
  | some (.file octets) => some octets
  | _ => none

/-- The most octets that a name may have. -/
def maxNameOctets : Nat := 255

/-- The least number of octets that is too many for a path. -/
def pathOctetsBound : Nat := 4096

/-- Follows names from a directory. -/
def openFrom (tree : Tree) (place : Place) : List Bytes → Except OpenFault Bytes
  | [] => .error .isADirectory
  | name :: rest =>
    if name = Place.up then openFrom tree (place.step name) rest
    else if maxNameOctets < name.length then .error .nameTooLong
    else
      match tree.node? (place.step name) with
      | none => .error .notFound
      | some .directory => openFrom tree (place.step name) rest
      | some (.file octets) => if rest = [] then .ok octets else .error .notADirectory

/-- The reader of a tree. -/
def reader (tree : Tree) : Reader := fun t =>
  if pathOctetsBound ≤ (Path.octets t).length then .error .nameTooLong
  else
    let path := Path.ofText t
    openFrom tree (Place.start path) (path.names.map Path.octets)

end Tree
end IntentLint
