/-
**Overrides.**

An override changes, for one rule and one category, whether the rule is in force or how severe it
is.  Overrides are applied to a copy of a rule, one after the other; the last one counts.

Main definitions:

* `Rulebook.Override`, `Rulebook.Override.applyTo` — overrides and what they do to a rule;
* `Rulebook.Override.applyList` — several overrides in order;
* `Rulebook.Override.key` — the rule and the category of an override in one text.

Main statements:

* `Rulebook.Override.id_applyTo`, `Rulebook.Override.category_applyTo` — an override changes
  neither the id of a rule nor its categories.
-/

import Rulebook.Configuration.Basic
import Rulebook.Rule.Basic

set_option autoImplicit false

namespace Rulebook

/-- Where an override comes from. -/
inductive Origin where
  /-- The states of universal rules. -/
  | user
  /-- The section of a category. -/
  | category
  /-- Neither of the two. -/
  | system
  deriving DecidableEq, Repr

namespace Origin

/-- The origins. -/
def all : List Origin := [.user, .category, .system]

/-- The name of an origin. -/
def name : Origin → String
  | .user => "user"
  | .category => "category"
  | .system => "system"

end Origin

/-- A change of a rule for the projects of a category. -/
structure Override where
  /-- The id of the rule. -/
  ruleId : String
  /-- The category. -/
  category : Category
  /-- What is done to the rule. -/
  action : Action
  /-- The severity that a change of severity gives. -/
  newSeverity : Option Severity
  /-- Why it is done. -/
  reason : String
  /-- Where the override comes from. -/
  appliedBy : Origin
  deriving DecidableEq, Repr

namespace Override

/-- The text for a rule and a category. -/
def keyOf (ruleId : String) (category : Category) : String := ruleId ++ ":" ++ category.name

/-- The text for the rule and the category of an override. -/
def key (o : Override) : String := keyOf o.ruleId o.category

/-- A rule after an override. -/
def applyTo (o : Override) (rule : Rule) : Rule :=
  match o.action with
  | .disable => { rule with enabled := false }
  | .enable => { rule with enabled := true }
  | .changeSeverity => { rule with severity := o.newSeverity.getD rule.severity }

/-- A rule after several overrides. -/
def applyList (os : List Override) (rule : Rule) : Rule := os.foldl (fun r o => o.applyTo r) rule

@[simp] theorem applyList_nil (rule : Rule) : applyList [] rule = rule := rfl

@[simp] theorem applyList_cons (o : Override) (os : List Override) (rule : Rule) :
    applyList (o :: os) rule = applyList os (o.applyTo rule) := rfl

/-- An override does not change the id. -/
@[simp] theorem id_applyTo (o : Override) (rule : Rule) : (o.applyTo rule).id = rule.id := by
  rw [applyTo]
  split <;> rfl

/-- An override does not change the categories. -/
@[simp] theorem category_applyTo (o : Override) (rule : Rule) :
    (o.applyTo rule).category = rule.category := by
  rw [applyTo]
  split <;> rfl

@[simp] theorem id_applyList (os : List Override) (rule : Rule) :
    (applyList os rule).id = rule.id := by
  induction os generalizing rule with
  | nil => rfl
  | cons o os ih => simp [ih]

end Override

end Rulebook
