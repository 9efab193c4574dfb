/-
**Loading rule documents.**

A registry takes the documents of a directory, or those that fit a pattern.  A document that cannot
be read, that is not accepted, or whose rule the registry refuses, is noted and left out; it does
not keep the others from being loaded.

Main definitions:

* `Rulebook.Registry.loadDocument` — taking one document;
* `Rulebook.Registry.loadDirectory` — taking all documents below a directory;
* `Rulebook.Registry.loadPattern?` — taking the documents that fit a pattern, and those below the
  directories that do;
* `Rulebook.Registry.countDirectory`, `Rulebook.Registry.countPattern?` — the same, with the number
  of rules that were added.
-/

import Rulebook.Document.Parse
import Rulebook.FileTree.Pattern
import Rulebook.Registry.Basic
import Rulebook.Text.Quoted
import Rulebook.Wording

set_option autoImplicit false

namespace Rulebook.Registry

/-- The rule of a document in a registry, or what is wrong with it. -/
def insertDocument (registry : Registry) (path content : String) : Except RuleError Registry := do
  let rule ← Document.parse content.toList
  registry.insert { rule with source := some path }

/-- Takes a document, if it has the extension of one. -/
def loadDocument (tree : FileTree) (registry : Registry) (path : String) : Registry :=
  if Path.isDocument path then
    match tree.readText path with
    | .error e => registry.addError ⟨path, "read rule document: " ++ e.message⟩
    | .ok content =>
      match registry.insertDocument path content with
      | .ok extended => extended
      | .error e => registry.addError ⟨path, e.message⟩
  else registry

/-- Takes all documents below a directory. -/
def loadDirectory (tree : FileTree) (registry : Registry) (directory : String) : Registry :=
  if tree.isDirectory directory then (tree.walk directory).foldl (loadDocument tree) registry
  else registry

/-- Takes a document, or all documents below a directory. -/
def loadPath (tree : FileTree) (registry : Registry) (path : String) : Registry :=
  if tree.isDirectory path then loadDirectory tree registry path
  else loadDocument tree registry path

/-- Takes the documents that fit a pattern; none if the pattern cannot be read. -/
def loadPattern? (tree : FileTree) (registry : Registry) (pattern : String) : Option Registry :=
  (Pattern.parse? pattern).map fun p => (p.paths tree).foldl (loadPath tree) registry

/-! ### Counting -/

/-- Whether taking a document adds a rule. -/
def addsRule (tree : FileTree) (registry : Registry) (path : String) : Bool :=
  Path.isDocument path &&
    match tree.readText path with
    | .error _ => false
    | .ok content => (registry.insertDocument path content).isOk

/-- Takes a document, and counts it if it adds a rule. -/
def countDocument (tree : FileTree) (loaded : Registry × Nat) (path : String) : Registry × Nat :=
  (loadDocument tree loaded.1 path, loaded.2 + (addsRule tree loaded.1 path).toNat)

/-- Takes all documents below a directory, and counts those that add a rule. -/
def countDirectory (tree : FileTree) (registry : Registry) (directory : String) : Registry × Nat :=
  if tree.isDirectory directory then
    (tree.walk directory).foldl (countDocument tree) (registry, 0)
  else (registry, 0)

/-- Takes a document, or all documents below a directory, and adds up the counts. -/
def countPath (tree : FileTree) (loaded : Registry × Nat) (path : String) : Registry × Nat :=
  if tree.isDirectory path then
    let below := countDirectory tree loaded.1 path
    (below.1, loaded.2 + below.2)
  else countDocument tree loaded path

/-- Takes a document, or all documents below a directory, for each path that fits a pattern, and
counts those that add a rule. -/
def countPattern? (tree : FileTree) (registry : Registry) (pattern : String) :
    Option (Registry × Nat) :=
  (Pattern.parse? pattern).map fun p => (p.paths tree).foldl (countPath tree) (registry, 0)

/-! ### What is said -/

/-- The chain of messages for a pattern that cannot be read. -/
def patternWording (pattern : String) : List Wording :=
  [.words ("invalid custom rules pattern: " ++ String.ofList (Text.quote pattern.toList)),
    .badPattern]

/-- The registry of a directory. -/
def ofDirectory (tree : FileTree) (directory : String) : Registry :=
  loadDirectory tree empty directory

end Rulebook.Registry
