/-
**Sessions with a registry.**

A registry begins empty.  From then on rules are inserted or loaded, and put in force or out of
force; the files may change between one request and the next.  Every request is answered, and a
request that is refused leaves the registry as it is.

Main definitions:

* `Rulebook.Registry.Request`, `Rulebook.Registry.Response` — what may be asked, and the answers;
* `Rulebook.Registry.step`, `Rulebook.Registry.run` — what comes of one request, and of several.
-/

import Rulebook.Registry.Load

set_option autoImplicit false

namespace Rulebook.Registry

/-- What may be asked of a registry. -/
inductive Request where
  /-- Insert a rule. -/
  | insert (rule : Rule)
  /-- Begin again, with the rules of a list. -/
  | gather (rules : List Rule)
  /-- Load the documents below a directory. -/
  | loadDirectory (tree : FileTree) (directory : String)
  /-- Load the documents that fit a pattern. -/
  | loadPattern (tree : FileTree) (pattern : String)
  /-- Put the rule with an id in force or out of force. -/
  | setEnabled (id : String) (enabled : Bool)

/-- The answer to a request. -/
inductive Response where
  /-- It is done. -/
  | done
  /-- The rule is refused. -/
  | refused (cause : RuleError)
  /-- This many rules were added. -/
  | loaded (count : Nat)
  /-- The pattern cannot be read. -/
  | badPattern (chain : List Wording)
  /-- Whether there is a rule with the id. -/
  | known (isKnown : Bool)
  deriving DecidableEq, Repr

/-- What comes of a request. -/
def step (registry : Registry) : Request → Registry × Response
  | .insert rule =>
    match registry.insert rule with
    | .ok extended => (extended, .done)
    | .error cause => (registry, .refused cause)
  | .gather rules => (ofRules rules, .done)
  | .loadDirectory tree directory =>
    let loaded := countDirectory tree registry directory
    (loaded.1, .loaded loaded.2)
  | .loadPattern tree pattern =>
    match countPattern? tree registry pattern with
    | some loaded => (loaded.1, .loaded loaded.2)
    | none => (registry, .badPattern (patternWording pattern))
  | .setEnabled id enabled =>
    match registry.setEnabled? id enabled with
    | some changed => (changed, .known true)
    | none => (registry, .known false)

/-- The registry that several requests lead to, from the empty one. -/
def run (requests : List Request) : Registry :=
  requests.foldl (fun registry request => (registry.step request).1) empty

end Rulebook.Registry
