/-
**Collections of overrides.**

Overrides are kept in groups, one for each rule and category, in the order in which they were
added.  The groups are listed by the texts of their keys.  A rule takes the overrides of the
universal category first, and then those of each category that it is looked at for.

Main definitions:

* `Rulebook.Overrides` — collections, with `empty`, `add`, `get`, `all` and `size`;
* `Rulebook.Overrides.ofConfiguration` — the overrides of a configuration;
* `Rulebook.Overrides.apply`, `Rulebook.Overrides.applyLayered` — a rule as it is for one category,
  and for a list of them.

Main statements:

* `Rulebook.Overrides.group_addAll` — what a group holds after several additions.
-/

import Rulebook.Override.Derived

set_option autoImplicit false

namespace Rulebook

/-- Overrides in groups, by key. -/
structure Overrides where
  /-- The groups. -/
  groups : SortedMap String (List Override)

namespace Overrides

/-- No overrides. -/
def empty : Overrides := ⟨.empty⟩

/-- The group under a key. -/
def group (os : Overrides) (key : String) : List Override := (os.groups.get? key).getD []

/-- One more override, at the end of its group. -/
def add (os : Overrides) (o : Override) : Overrides := ⟨os.groups.addTo Override.key o⟩

/-- Several more overrides, in order. -/
def addAll (os : Overrides) (new : List Override) : Overrides := new.foldl add os

/-- The overrides of a configuration. -/
def ofConfiguration (config : Configuration) : Overrides := empty.addAll config.overrides

/-- The overrides of a rule for a category. -/
def get (os : Overrides) (ruleId : String) (category : Category) : List Override :=
  os.group (Override.keyOf ruleId category)

/-- All overrides, group by group. -/
def all (os : Overrides) : List Override := os.groups.values.flatten

/-- The number of overrides. -/
def size (os : Overrides) : Nat := os.all.length

/-- Whether there is no group. -/
def isEmpty (os : Overrides) : Bool := os.groups.isEmpty

/-- A rule as it is for one category. -/
def apply (os : Overrides) (rule : Rule) (category : Category) : Rule :=
  Override.applyList (os.get rule.id category) rule

/-- A rule as it is for a list of categories. -/
def applyLayered (os : Overrides) (rule : Rule) (categories : List Category) : Rule :=
  (layers categories).foldl os.apply rule

/-! ### Groups -/

@[simp] theorem group_empty (key : String) : empty.group key = [] := rfl

theorem groups_addAll (os : Overrides) (new : List Override) :
    (os.addAll new).groups = new.foldl (SortedMap.addTo Override.key) os.groups := by
  induction new generalizing os with
  | nil => rfl
  | cons o rest ih => exact ih (os.add o)

/-- After several additions a group holds what it held before, and the new overrides of its key. -/
theorem group_addAll (os : Overrides) (new : List Override) (key : String) :
    (os.addAll new).group key = os.group key ++ new.filter (fun o => o.key == key) := by
  rw [group, groups_addAll]
  exact SortedMap.getD_foldl_addTo Override.key os.groups new key

@[simp] theorem id_apply (os : Overrides) (rule : Rule) (category : Category) :
    (os.apply rule category).id = rule.id := Override.id_applyList _ _

@[simp] theorem id_foldl_apply (os : Overrides) (rule : Rule) (categories : List Category) :
    (categories.foldl os.apply rule).id = rule.id := by
  induction categories generalizing rule with
  | nil => rfl
  | cons c rest ih => simp [ih]

/-- Overrides do not change the id. -/
@[simp] theorem id_applyLayered (os : Overrides) (rule : Rule) (categories : List Category) :
    (os.applyLayered rule categories).id = rule.id := id_foldl_apply os rule (layers categories)

end Overrides

end Rulebook
