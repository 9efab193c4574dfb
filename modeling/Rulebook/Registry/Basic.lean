/-
**The registry of rules.**

A registry keeps rules in the order in which they came, with an index by id, and the documents that
gave no rule.  Ids are unique: the first rule with an id stays.

Main definitions:

* `Rulebook.Registry`, `Rulebook.Registry.insert` — registries and the addition of a rule;
* `Rulebook.Registry.ofRules` — the registry of a list of rules;
* `Rulebook.Registry.get?`, `Rulebook.Registry.byCategory`, `Rulebook.Registry.query` — looking for
  rules;
* `Rulebook.Registry.setEnabled` — putting a rule in force or out of force.
-/

import Rulebook.Rule.Basic
import Rulebook.SortedMap

set_option autoImplicit false

namespace Rulebook

/-- A document that gave no rule. -/
structure LoadError where
  /-- The document. -/
  path : String
  /-- What is wrong with it. -/
  message : String
  deriving DecidableEq, Repr

/-- Rules with an index by id. -/
structure Registry where
  /-- The rules, in the order in which they came. -/
  rules : List Rule
  /-- The place of each rule, by id. -/
  index : SortedMap String Nat
  /-- The documents that gave no rule. -/
  errors : List LoadError

namespace Registry

/-- The registry without rules. -/
def empty : Registry := ⟨[], .empty, []⟩

/-- One more rule, unless its id is taken or it has no category. -/
def insert (registry : Registry) (rule : Rule) : Except RuleError Registry :=
  if (registry.index.get? rule.id).isSome then .error (.duplicateId rule.id)
  else if rule.category.isEmpty then .error .emptyCategory
  else
    .ok { registry with
      rules := registry.rules ++ [rule]
      index := registry.index.insert rule.id registry.rules.length }

/-- One more rule, or the registry as it is if the rule is refused. -/
def offer (registry : Registry) (rule : Rule) : Registry :=
  match registry.insert rule with
  | .ok extended => extended
  | .error _ => registry

/-- The registry of a list of rules, without those that are refused. -/
def ofRules (rules : List Rule) : Registry := rules.foldl offer empty

/-- One more document that gave no rule. -/
def addError (registry : Registry) (error : LoadError) : Registry :=
  { registry with errors := registry.errors ++ [error] }

/-- The rule with an id. -/
def get? (registry : Registry) (id : String) : Option Rule :=
  (registry.index.get? id).bind fun i => registry.rules[i]?

/-- The rules of a category. -/
def byCategory (registry : Registry) (category : Category) : List Rule :=
  registry.rules.filter fun rule => rule.hasCategory category

/-- The rules of any of several categories; only those in force, or out of force, if `enabled`
says so. -/
def query (registry : Registry) (categories : List Category) (enabled : Option Bool) :
    List Rule :=
  registry.rules.filter fun rule =>
    categories.any rule.hasCategory && enabled.all fun state => rule.enabled == state

/-- Puts the rule with an id in force or out of force; none if there is no such rule. -/
def setEnabled? (registry : Registry) (id : String) (enabled : Bool) : Option Registry :=
  (registry.index.get? id).map fun i =>
    { registry with rules := registry.rules.modify i fun rule => { rule with enabled := enabled } }

/-- The ids, in order. -/
def ids (registry : Registry) : List String := registry.rules.map (·.id)

end Registry

end Rulebook
