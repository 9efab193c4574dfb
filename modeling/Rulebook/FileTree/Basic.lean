/-
**Trees of files.**

Everything that is read from files is read from a tree: a map from places to what is there.  A place
is a list of names, from the working directory downwards, or, after a slash, from the root of all
files.  The map has nothing but places, and it lists them in such an order that the inside of a
directory comes directly after the directory.

Main definitions:

* `Rulebook.FileTree`, `Rulebook.FileTree.Node`, `Rulebook.FileTree.Content` — trees, what is at a
  place, and what a file holds;
* `Rulebook.FileTree.find` — what a path leads to;
* `Rulebook.FileTree.readText` — the text of a file;
* `Rulebook.FileTree.below`, `Rulebook.FileTree.children`, `Rulebook.FileTree.walk` — the inside of
  a directory;
* `Rulebook.FileTree.write`, `Rulebook.FileTree.remove` — changes.
-/

import Rulebook.FileTree.Path
import Rulebook.SortedMap

set_option autoImplicit false

namespace Rulebook

/-- What a file holds. -/
inductive FileTree.Content where
  /-- A text. -/
  | text (value : String)
  /-- Bytes that are not the encoding of a text. -/
  | binary
  deriving DecidableEq, Repr

/-- What is at a place. -/
inductive FileTree.Node where
  /-- A file. -/
  | file (content : FileTree.Content)
  /-- A directory. -/
  | directory
  deriving DecidableEq, Repr

/-- Why nothing can be read. -/
inductive FileError where
  /-- Nothing is there. -/
  | notFound
  /-- The path leads through a file. -/
  | notADirectory
  /-- The path leads to a directory. -/
  | isADirectory
  /-- The file does not hold a text. -/
  | notText
  deriving DecidableEq, Repr

/-- The wording of an error. -/
def FileError.message : FileError → String
  | .notFound => "No such file or directory (os error 2)"
  | .notADirectory => "Not a directory (os error 20)"
  | .isADirectory => "Is a directory (os error 21)"
  | .notText => "stream did not contain valid UTF-8"

/-- A tree of files. -/
structure FileTree where
  /-- The absolute path of the working directory. -/
  root : String
  /-- What is at each place, but for the working directory itself. -/
  nodes : SortedMap (List String) FileTree.Node
  /-- The keys are places. -/
  placed : ∀ entry ∈ nodes.entries, Path.IsPlace entry.1

namespace FileTree

/-- The tree without files. -/
def empty (root : String) : FileTree := ⟨root, .empty, List.forall_mem_nil _⟩

/-- What is at a place. -/
def at? (tree : FileTree) : List String → Option Node
  | [] => some .directory
  | place => tree.nodes.get? place

/-! ### Paths in a tree -/

/-- The parts of a path as seen from the working directory; an absolute path that does not lead into
it has a slash as its first part. -/
def partsFrom (tree : FileTree) (path : String) : List String :=
  match tree.root.toList.isPrefixOf? path.toList with
  | some [] => []
  | some ('/' :: rest) => Path.parts (String.ofList rest)
  | _ => if Path.isAbsolute path then "/" :: Path.parts path else Path.parts path

/-- The place that one more part of a path leads to. -/
def step (tree : FileTree) (place : List String) (part : String) :
    Except FileError (List String) :=
  match tree.at? place with
  | some .directory =>
    if part = "." then .ok place
    else if part = ".." then if place.isEmpty then .error .notFound else .ok place.dropLast
    else .ok (place ++ [part])
  | some (.file _) => .error .notADirectory
  | none => .error .notFound

/-- The place that a path leads to; nothing need be there. -/
def place (tree : FileTree) (path : String) : Except FileError (List String) :=
  if path = "" then .error .notFound else (tree.partsFrom path).foldlM tree.step []

/-- What a path leads to. -/
def find (tree : FileTree) (path : String) : Except FileError Node := do
  match tree.at? (← tree.place path) with
  | some (.file content) =>
    if Path.endsWithSlash path then throw .notADirectory else return .file content
  | some .directory => return .directory
  | none => throw .notFound

/-- The text of a file. -/
def readText (tree : FileTree) (path : String) : Except FileError String := do
  match ← tree.find path with
  | .file (.text s) => return s
  | .file .binary => throw .notText
  | .directory => throw .isADirectory

/-- Whether a path leads to a directory. -/
def isDirectory (tree : FileTree) (path : String) : Bool :=
  match tree.find path with
  | .ok .directory => true
  | _ => false

/-- Whether a path leads to anything. -/
def isThere (tree : FileTree) (path : String) : Bool :=
  match tree.find path with
  | .ok _ => true
  | .error _ => false

/-! ### Directories -/

/-- The way from a place to another below it.  What is kept behind a slash is not in the working
directory. -/
def wayFrom? (start place : List String) : Option (List String) :=
  match start.isPrefixOf? place with
  | some [] => none
  | some way => if way.head? = some "/" then none else some way
  | none => none

/-- What is below a place, with the way to it, a directory before its inside. -/
def belowPlace (tree : FileTree) (place : List String) : List (List String × Node) :=
  tree.nodes.entries.filterMap fun entry =>
    (wayFrom? place entry.1).map fun way => (way, entry.2)

/-- What is below a directory, with the way to it. -/
def below (tree : FileTree) (path : String) : List (List String × Node) :=
  match tree.find path, tree.place path with
  | .ok .directory, .ok place => tree.belowPlace place
  | _, _ => []

/-- The names of what is directly in a directory. -/
def children (tree : FileTree) (path : String) : List String :=
  (tree.below path).filterMap fun entry =>
    match entry.1 with
    | [name] => some name
    | _ => none

/-- The content of a file. -/
def Node.content? : Node → Option Content
  | .file content => some content
  | .directory => none

/-- The paths of the files below a path, depth first, each directory by the order of its names; a
path that leads to a file gives that file. -/
def walk (tree : FileTree) (path : String) : List String :=
  match tree.find path with
  | .ok (.file _) => [path]
  | .ok .directory =>
    (tree.below path).filterMap fun entry =>
      entry.2.content?.map fun _ => Path.joinAll path entry.1
  | .error _ => []

/-! ### Changes -/

/-- Puts something at a place; where there cannot be anything, nothing is put. -/
def put (tree : FileTree) (place : List String) (node : Node) : FileTree :=
  if h : Path.IsPlace place then
    { tree with
      nodes := tree.nodes.insert place node
      placed := by
        intro entry hentry
        rcases SortedMap.mem_insertEntry hentry with rfl | hold
        · exact h
        · exact tree.placed entry hold }
  else tree

@[simp] theorem root_put (tree : FileTree) (place : List String) (node : Node) :
    (tree.put place node).root = tree.root := by
  rw [put]
  split <;> rfl

/-- Makes sure that there is a directory at a place. -/
def ensureDirectory (tree : FileTree) (place : List String) : FileTree :=
  match tree.at? place with
  | some .directory => tree
  | _ => tree.put place .directory

/-- The places above a place, from the top. -/
def ancestors (place : List String) : List (List String) :=
  (List.range (place.length - 1)).map fun n => place.take (n + 1)

/-- Writes something under a path, with the directories above it. -/
def write (tree : FileTree) (path : String) (node : Node) : FileTree :=
  let place := tree.partsFrom path
  ((ancestors place).foldl ensureDirectory tree).put place node

/-- Takes away what a path leads to. -/
def remove (tree : FileTree) (path : String) : FileTree :=
  { tree with
    nodes := tree.nodes.erase (tree.partsFrom path)
    placed := fun entry hentry => tree.placed entry (List.mem_filter.1 hentry).1 }

end FileTree

end Rulebook
