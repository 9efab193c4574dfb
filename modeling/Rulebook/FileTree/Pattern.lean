/-
**Patterns of paths.**

A pattern is a path whose parts may hold wildcards: a question mark for any character, an asterisk
for any text, and a list of characters in brackets, with an exclamation mark for those that are not
in the list.  A part of two asterisks stands for any number of directories.

Main definitions:

* `Rulebook.Pattern.Token`, `Rulebook.Pattern.tokens?`, `Rulebook.Pattern.fits` — the parts of a
  pattern, and the names that fit them;
* `Rulebook.Pattern`, `Rulebook.Pattern.parse?` — patterns, and reading them;
* `Rulebook.Pattern.paths` — the paths of a tree that fit a pattern, in order.
-/

import Rulebook.FileTree.Basic

set_option autoImplicit false

namespace Rulebook

/-! ### Names -/

/-- Characters of a list in brackets. -/
structure Pattern.Range where
  /-- The first one. -/
  first : Char
  /-- The last one. -/
  last : Char
  deriving DecidableEq, Repr

/-- An element of the pattern of a name. -/
inductive Pattern.Token where
  /-- This character. -/
  | char (c : Char)
  /-- Any character. -/
  | anyChar
  /-- Any text. -/
  | anyText
  /-- A character of a list. -/
  | oneOf (ranges : List Pattern.Range)
  /-- A character that is not in a list. -/
  | noneOf (ranges : List Pattern.Range)
  deriving DecidableEq, Repr

/-- A part of a pattern. -/
inductive Pattern.Part where
  /-- Any number of directories. -/
  | anyDirectories
  /-- A name without wildcards. -/
  | exactly (name : String)
  /-- A name with wildcards. -/
  | like (tokens : List Pattern.Token)
  deriving DecidableEq, Repr

namespace Pattern

/-- Whether a character is in a list. -/
def inRanges (ranges : List Range) (c : Char) : Bool :=
  ranges.any fun r => r.first ≤ c && c ≤ r.last

/-- The characters of a list: single ones, and ranges with a hyphen. -/
def ranges : List Char → List Range
  | first :: '-' :: last :: rest => ⟨first, last⟩ :: ranges rest
  | c :: rest => ⟨c, c⟩ :: ranges rest
  | [] => []

/-- A list in brackets, after its opening bracket, and what follows it.  A list is not empty, so
that a closing bracket at its beginning belongs to it. -/
def bracket? (s : List Char) : Option (Token × List Char) :=
  match s with
  | '!' :: first :: rest =>
    (Text.splitFirst [']'] rest).map fun parts => (.noneOf (ranges (first :: parts.1)), parts.2)
  | '!' :: [] => none
  | first :: rest =>
    (Text.splitFirst [']'] rest).map fun parts => (.oneOf (ranges (first :: parts.1)), parts.2)
  | [] => none

/-- What follows a list in brackets is shorter than the list. -/
theorem length_of_bracket? {s rest : List Char} {token : Token}
    (h : bracket? s = some (token, rest)) : rest.length < s.length := by
  unfold bracket? at h
  split at h
  · obtain ⟨parts, hp, he⟩ := Option.map_eq_some_iff.1 h
    have := congrArg List.length (Text.splitFirst_eq_some hp)
    simp only [Prod.mk.injEq] at he
    simp only [List.length_append, List.length_cons, List.length_nil] at this ⊢
    rw [← he.2]
    omega
  · simp at h
  · obtain ⟨parts, hp, he⟩ := Option.map_eq_some_iff.1 h
    have := congrArg List.length (Text.splitFirst_eq_some hp)
    simp only [Prod.mk.injEq] at he
    simp only [List.length_append, List.length_cons, List.length_nil] at this ⊢
    rw [← he.2]
    omega
  · simp at h

/-- The elements of the pattern of a name; two asterisks may not stand together. -/
def tokens? (s : List Char) : Option (List Token) :=
  match s with
  | [] => some []
  | '?' :: rest => (tokens? rest).map (.anyChar :: ·)
  | '*' :: '*' :: _ => none
  | '*' :: rest => (tokens? rest).map (.anyText :: ·)
  | '[' :: rest =>
    match _h : bracket? rest with
    | some (token, after) => (tokens? after).map (token :: ·)
    | none => none
  | c :: rest => (tokens? rest).map (.char c :: ·)
termination_by s.length
decreasing_by
  all_goals simp only [List.length_cons]
  all_goals try omega
  have := length_of_bracket? _h
  omega

/-- Whether a character fits an element for one character. -/
def Token.fitsChar (token : Token) (c : Char) : Bool :=
  match token with
  | .char d => c == d
  | .anyChar => true
  | .anyText => false
  | .oneOf ranges => inRanges ranges c
  | .noneOf ranges => !inRanges ranges c

/-- Whether some end of a text satisfies `p`. -/
def anyEnd (p : List Char → Bool) : List Char → Bool
  | [] => p []
  | c :: rest => p (c :: rest) || anyEnd p rest

/-- Whether a name fits a pattern. -/
def fits : List Token → List Char → Bool
  | [], s => s.isEmpty
  | .anyText :: rest, s => anyEnd (fits rest) s
  | _ :: _, [] => false
  | token :: rest, c :: s => token.fitsChar c && fits rest s

/-- Whether an element is a wildcard. -/
def Token.isWild : Token → Bool
  | .char _ => false
  | _ => true

/-- A part of a pattern. -/
def part? (s : List Char) : Option Part :=
  if s = ['*', '*'] then some .anyDirectories
  else
    (tokens? s).map fun tokens =>
      if tokens.any Token.isWild then .like tokens else .exactly (String.ofList s)

/-- Whether a name fits a part. -/
def Part.fits (part : Part) (name : String) : Bool :=
  match part with
  | .anyDirectories => true
  | .exactly expected => name == expected
  | .like tokens => Pattern.fits tokens name.toList

/-- Leaves one part of two asterisks of several that follow each other. -/
def collapse : List Part → List Part
  | [] => []
  | part :: rest =>
    match part, collapse rest with
    | .anyDirectories, .anyDirectories :: more => .anyDirectories :: more
    | _, more => part :: more

end Pattern

/-! ### Patterns -/

/-- A pattern of paths. -/
structure Pattern where
  /-- Where the parts begin: the working directory, or the root of all files. -/
  start : String
  /-- The parts. -/
  parts : List Pattern.Part
  /-- Whether only directories are wanted. -/
  onlyDirectories : Bool
  deriving DecidableEq, Repr

namespace Pattern

/-- The texts between the slashes of a text; a slash at the end is not followed by a text. -/
def pieces (s : List Char) : List (List Char) :=
  let all := Text.segments '/' s
  if all.getLast? == some [] then all.dropLast else all

/-- Reads a pattern. -/
def parse? (text : String) : Option Pattern := do
  let absolute := Path.isAbsolute text
  let s := if absolute then text.toList.drop 1 else text.toList
  let parts ← if s.isEmpty then some [.exactly ""] else (pieces s).mapM part?
  return ⟨if absolute then "/" else ".", collapse parts, Path.endsWithSlash text⟩

/-! ### Paths that fit -/

/-- The path of an entry of a directory. -/
def entryPath (path name : String) : String :=
  if Path.isHere path then name else Path.join path name

/-- A path to which all parts lead, if it is wanted. -/
def wanted (tree : FileTree) (onlyDirectories : Bool) (path : String) : List String :=
  if onlyDirectories && !tree.isDirectory path then [] else [path]

/-- The directory itself and the one above it, if a part with a dot in front fits their names. -/
def specials (tree : FileTree) (path : String) (tokens : List Token) : List String :=
  if tree.isDirectory path ∧ tokens.head? = some (.char '.') then
    ["..", "."].filter fun name => fits tokens name.toList
  else []

/-- Whether a name without wildcards is there. -/
def isEntry (tree : FileTree) (path name : String) : Bool :=
  if name = "." ∨ name = ".." then tree.isDirectory path else tree.isThere (entryPath path name)

/-- The paths below a path to which the parts lead. -/
def expand (tree : FileTree) (onlyDirectories : Bool) : List Part → String → List String
  | [], path => wanted tree onlyDirectories path
  | .exactly name :: rest, path =>
    if isEntry tree path name then expand tree onlyDirectories rest (entryPath path name) else []
  | .like tokens :: rest, path =>
    ((specials tree path tokens).map (Path.join path ·) ++
        ((tree.children path).filter fun name => fits tokens name.toList).map (entryPath path ·))
      |>.flatMap (expand tree onlyDirectories rest)
  | .anyDirectories :: [], path =>
    ((tree.below path).filter fun entry => entry.2 == .directory).map fun entry =>
      entry.1.foldl entryPath path
  | .anyDirectories :: part :: rest, path =>
    ((tree.below path).filter fun entry => entry.1.getLast?.any part.fits).flatMap fun entry =>
      expand tree onlyDirectories rest (entry.1.foldl entryPath path)

/-- The paths of a tree that fit a pattern, in order. -/
def paths (tree : FileTree) (pattern : Pattern) : List String :=
  expand tree pattern.onlyDirectories pattern.parts pattern.start

end Pattern

end Rulebook
