/-
**Paths.**

A path is a text with slashes between its parts.  Empty parts do not count, and neither does a
single dot, except at the beginning.

Main definitions:

* `Rulebook.Path.parts` — the parts of a path that are not empty;
* `Rulebook.Path.join` — a path below another;
* `Rulebook.Path.fileName?`, `Rulebook.Path.extension?` — the last part of a path, and what follows
  its last dot;
* `Rulebook.Path.isDocument` — whether a path has the extension of rule documents and templates;
* `Rulebook.Path.IsName`, `Rulebook.Path.IsPlace` — names of files, and lists of them.
-/

import Rulebook.Text.Search

set_option autoImplicit false

namespace Rulebook.Path

/-- Whether a path begins at the root of all files. -/
def isAbsolute (path : String) : Bool := path.toList.head? == some '/'

/-- Whether a path ends with a slash. -/
def endsWithSlash (path : String) : Bool := path.toList.getLast? == some '/'

/-- The parts of a path that are not empty. -/
def parts (path : String) : List String :=
  ((Text.segments '/' path.toList).filter fun part => !part.isEmpty).map String.ofList

/-- A path below another; an absolute path stays as it is. -/
def join (base path : String) : String :=
  if isAbsolute path then path
  else if base = "" ∨ endsWithSlash base then base ++ path
  else base ++ "/" ++ path

/-- A path below another that has several more parts. -/
def joinAll (base : String) (parts : List String) : String := parts.foldl join base

/-- The last part of a path, if it is a name. -/
def fileName? (path : String) : Option String :=
  match ((parts path).filter (· ≠ ".")).getLast? with
  | some ".." => none
  | last => last

/-- What follows the last dot of a name; a dot at the beginning does not count. -/
def nameExtension? (name : List Char) : Option (List Char) :=
  match Text.splitLast '.' name with
  | some ([], _) => none
  | some (_, extension) => some extension
  | none => none

/-- The extension of a path. -/
def extension? (path : String) : Option String :=
  (fileName? path).bind fun name => (nameExtension? name.toList).map String.ofList

/-- Whether a path has the extension of rule documents and templates. -/
def isDocument (path : String) : Bool := extension? path == some "md"

/-- Whether a path names the working directory itself. -/
def isHere (path : String) : Bool :=
  path != "" && !isAbsolute path && (parts path).all (· == ".")

/-- A name that a file can have. -/
def IsName (name : String) : Prop := name ≠ "" ∧ '/' ∉ name.toList

instance (name : String) : Decidable (IsName name) := inferInstanceAs (Decidable (_ ∧ _))

/-- Names, the first of which may be a slash for the root of all files. -/
def IsPlace : List String → Prop
  | [] => True
  | first :: rest => (first = "/" ∨ IsName first) ∧ ∀ name ∈ rest, IsName name

instance : (place : List String) → Decidable (IsPlace place)
  | [] => inferInstanceAs (Decidable True)
  | _ :: _ => inferInstanceAs (Decidable (_ ∧ _))

end Rulebook.Path
