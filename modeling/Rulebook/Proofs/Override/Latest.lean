/-
**The latest override wins.**

A rule that is looked at for some categories takes the overrides of the universal category and then
those of each category of the list, and each of them may set its state or its severity again.  Since
the key of a group determines the rule and the category, even if ids hold colons, the overrides that
a rule takes are those that were added for it and for one of these categories, in the order in which
they were added, and no others.  So what becomes of the rule can be said without groups: its state
is the one that was set last, its severity is the one that was given last, and a state or severity
that nobody speaks of stays as it is, like all the rest of the rule.  Taking the same overrides
again ends in the same last words.

Main definitions:

* `Rulebook.Override.taken` — the overrides that a rule takes, of those that were added;
* `Rulebook.Override.latestState`, `Rulebook.Override.latestSeverity` — the last words in a list.

Main results:

* `Rulebook.Overrides.flatMap_get_addAll` — the groups that a rule goes through hold the overrides
  that it takes;
* `Rulebook.Overrides.applyLayered_addAll` — **the latest override wins**, and nothing else changes.
-/

import Rulebook.Proofs.Override.InForce
import Rulebook.Proofs.Override.Order

set_option autoImplicit false

namespace Rulebook

open Override (netEffect NetEffect)

/-! ### Last words -/

namespace Override

/-- Of the overrides that were added, those that a rule takes which is looked at for a list of
categories: first those for the universal category, and then those for each other category of the
list in its turn. -/
def taken (added : List Override) (ruleId : String) (categories : List Category) : List Override :=
  (layers categories).flatMap fun c => added.filter fun o => decide (o.IsFor ruleId c)

/-- The state that is set last in a list. -/
def latestState (os : List Override) : Option Bool :=
  (os.filter fun o => decide o.SetsState).getLast?.map fun o => o.action == .enable

/-- The severity that is given last in a list. -/
def latestSeverity (os : List Override) : Option Severity :=
  (os.filterMap Overrides.givenSeverity?).getLast?

theorem givenState?_eq (o : Override) :
    o.givenState? = if o.SetsState then some (o.action == .enable) else none := by
  cases h : o.action <;> simp [givenState?, NetEffect.after, NetEffect.nothing, SetsState, h]

/-- What a list leaves are the last words in it. -/
theorem netEffect_eq_latest (os : List Override) :
    netEffect os = ⟨latestState os, latestSeverity os⟩ := by
  have hstate : os.filterMap givenState? =
      (os.filter fun o => decide o.SetsState).map fun o => o.action == .enable := by
    rw [← List.filterMap_eq_map, List.filterMap_filter]
    refine List.filterMap_congr fun o _ => ?_
    rw [givenState?_eq]
    simp
  rw [netEffect_eq, hstate, List.getLast?_map]
  rfl

end Override

/-! ### Collections -/

namespace Overrides

/-- **The groups that a rule goes through hold the overrides that it takes**, in the order in which
it takes them. -/
theorem flatMap_get_addAll (added : List Override) (ruleId : String)
    (categories : List Category) :
    (layers categories).flatMap ((empty.addAll added).get ruleId) =
      Override.taken added ruleId categories :=
  List.flatMap_congr fun c _ => get_empty_addAll added ruleId c

/-- **The latest override wins, and nothing else changes.**  Whatever overrides were added to a
collection, one after the other, what it has for a rule and a category are those that were added for
them, in that order.  A rule that is looked at for a list of categories has the state that was set
last among the overrides it takes, and the severity that was given last, or its own where they are
silent; the rest of it is as it was.  And looked at again it stays as it is.  (The collection of a
configuration is the one to which the overrides of the configuration were added.) -/
theorem applyLayered_addAll (added : List Override) (rule : Rule) (categories : List Category) :
    let os := empty.addAll added
    (∀ c, os.get rule.id c = added.filter fun o => decide (o.IsFor rule.id c)) ∧
    os.applyLayered rule categories =
      { rule with
        enabled :=
          (Override.latestState (Override.taken added rule.id categories)).getD rule.enabled
        severity :=
          (Override.latestSeverity (Override.taken added rule.id categories)).getD
            rule.severity } ∧
    os.applyLayered (os.applyLayered rule categories) categories =
      os.applyLayered rule categories := by
  intro os
  refine ⟨get_empty_addAll added rule.id, ?_, ?_⟩
  · rw [applyLayered_eq, effect, flatMap_get_addAll, Override.netEffect_eq_latest,
      NetEffect.applyTo]
  · exact applyLayered_applyLayered os rule (List.Subset.refl categories)

/-- An id may end like a key.  Of these overrides the rule takes the last one first and then the
second one, which puts it in force. -/
example :
    let added : List Override :=
      [⟨"locks", .kernel, .disable, none, "", .system⟩,
        ⟨"locks:kernel", .kernel, .enable, none, "", .system⟩,
        ⟨"locks:kernel:kernel", .universal, .disable, none, "", .system⟩,
        ⟨"locks:kernel", .universal, .disable, none, "", .system⟩]
    let rule : Rule :=
      ⟨"locks:kernel", "Locks", "", "", [.kernel], .warning, false, .none, none, none⟩
    ((empty.addAll added).applyLayered rule [.universal, .kernel]).enabled = true := by
  decide +kernel

end Overrides

end Rulebook
