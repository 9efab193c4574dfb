/-
**The groups of a collection.**

A collection keeps its overrides in groups under texts that join the id of a rule and the name of a
category by a colon.  An id may hold colons of its own; no name of a category does, so what follows
the last colon is the category and the text determines both parts.  Therefore a group holds the
overrides that were added for one rule and one category, and nothing else.

Main definitions:

* `Rulebook.Override.IsFor` — an override is for a rule and a category;
* `Rulebook.Overrides.WellKept` — every group holds overrides, all of them for its key.

Main results:

* `Rulebook.Override.keyOf_inj` — the key of a group determines the rule and the category;
* `Rulebook.Overrides.get_addAll` — what a collection has for a rule and a category after several
  additions;
* `Rulebook.Overrides.WellKept.addAll` — additions keep a collection well kept;
* `Rulebook.Overrides.WellKept.exists_key`, `Rulebook.Overrides.WellKept.get?_groups` — the groups
  of a well kept collection are what it has for rules and categories.
-/

import Rulebook.Override.Collection
import Rulebook.Proofs.SortedMap

set_option autoImplicit false

namespace Rulebook

/-! ### Keys -/

namespace Override

/-- Read from its end, a key begins with the name of its category. -/
theorem takeWhile_reverse_keyOf (ruleId : String) (c : Category) :
    (keyOf ruleId c).toList.reverse.takeWhile (· != ':') = c.name.toList.reverse := by
  have hname : ∀ d ∈ c.name.toList.reverse, (d != ':') = true := by
    intro d hd
    rw [bne_iff_ne]
    rintro rfl
    exact c.colon_not_mem_name (List.mem_reverse.1 hd)
  simp only [keyOf, String.toList_append, List.reverse_append]
  rw [List.takeWhile_append_of_pos hname]
  simp

/-- **The key of a group determines the rule and the category.** -/
theorem keyOf_inj {ruleId ruleId' : String} {c c' : Category}
    (h : keyOf ruleId c = keyOf ruleId' c') : ruleId = ruleId' ∧ c = c' := by
  have hname : c.name.toList.reverse = c'.name.toList.reverse := by
    rw [← takeWhile_reverse_keyOf ruleId, h, takeWhile_reverse_keyOf]
  obtain rfl : c = c' :=
    Category.name_injective (String.toList_inj.1 (List.reverse_inj.1 hname))
  refine ⟨?_, rfl⟩
  simpa [keyOf] using h

/-- An override is for a rule and a category. -/
def IsFor (o : Override) (ruleId : String) (c : Category) : Prop :=
  o.ruleId = ruleId ∧ o.category = c

instance (o : Override) (ruleId : String) (c : Category) : Decidable (o.IsFor ruleId c) :=
  inferInstanceAs (Decidable (_ ∧ _))

/-- An override has the key of a rule and a category exactly when it is for them. -/
theorem key_eq_iff (o : Override) (ruleId : String) (c : Category) :
    o.key = keyOf ruleId c ↔ o.IsFor ruleId c := by
  constructor
  · intro h
    exact keyOf_inj h
  · rintro ⟨rfl, rfl⟩
    rfl

end Override

/-! ### Groups -/

namespace Overrides

/-- **What a collection has for a rule and a category after several additions.** -/
theorem get_addAll (os : Overrides) (new : List Override) (ruleId : String) (c : Category) :
    (os.addAll new).get ruleId c =
      os.get ruleId c ++ new.filter fun o => decide (o.IsFor ruleId c) := by
  rw [get, group_addAll]
  congr 1
  refine List.filter_congr fun o _ => ?_
  rw [Bool.eq_iff_iff, beq_iff_eq, decide_eq_true_iff]
  exact o.key_eq_iff ruleId c

/-- A collection has those overrides for a rule and a category that were added for them, in the order
in which they were added. -/
theorem get_empty_addAll (added : List Override) (ruleId : String) (c : Category) :
    (empty.addAll added).get ruleId c = added.filter fun o => decide (o.IsFor ruleId c) := by
  rw [get_addAll, get, group_empty, List.nil_append]

/-- What the collection of a configuration has for a rule and a category. -/
theorem get_ofConfiguration (config : Configuration) (ruleId : String) (c : Category) :
    (ofConfiguration config).get ruleId c =
      config.overrides.filter fun o => decide (o.IsFor ruleId c) :=
  get_empty_addAll config.overrides ruleId c

/-- Every group holds overrides, and they are all for the rule and the category of its key. -/
def WellKept (os : Overrides) : Prop :=
  ∀ key group, os.groups.get? key = some group → group ≠ [] ∧ ∀ o ∈ group, o.key = key

theorem wellKept_empty : empty.WellKept := by
  intro key group h
  exact nomatch h

theorem WellKept.add {os : Overrides} (h : os.WellKept) (o : Override) : (os.add o).WellKept := by
  intro key group hget
  rw [Overrides.add, SortedMap.addTo, SortedMap.get?_update] at hget
  split at hget
  · rename_i hkey
    obtain rfl := Option.some.inj hget
    refine ⟨by simp, fun p hp => ?_⟩
    rcases List.mem_append.1 hp with hp | hp
    · -- an override that was in the group before
      cases hold : os.groups.get? o.key with
      | none => simp [hold] at hp
      | some old =>
          rw [hold, Option.getD_some] at hp
          rw [(h o.key old hold).2 p hp, hkey]
    · rw [List.mem_singleton.1 hp, hkey]
  · exact h key group hget

/-- Additions keep a collection well kept. -/
theorem WellKept.addAll {os : Overrides} (h : os.WellKept) (new : List Override) :
    (os.addAll new).WellKept := by
  induction new generalizing os with
  | nil => exact h
  | cons o rest ih => exact ih (h.add o)

theorem wellKept_ofConfiguration (config : Configuration) : (ofConfiguration config).WellKept :=
  wellKept_empty.addAll config.overrides

/-- The key of a group of a well kept collection is that of a rule and a category. -/
theorem WellKept.exists_key {os : Overrides} (h : os.WellKept) {key : String}
    {group : List Override} (hget : os.groups.get? key = some group) :
    ∃ ruleId c, key = Override.keyOf ruleId c ∧ os.get ruleId c = group := by
  obtain ⟨hne, hkeys⟩ := h key group hget
  obtain ⟨o, ho⟩ := List.exists_mem_of_ne_nil group hne
  obtain rfl : Override.keyOf o.ruleId o.category = key := hkeys o ho
  refine ⟨o.ruleId, o.category, rfl, ?_⟩
  rw [get, Overrides.group, hget, Option.getD_some]

/-- A well kept collection has a group under the key of a rule and a category exactly if the group
has overrides. -/
theorem WellKept.get?_groups {os : Overrides} (h : os.WellKept) (ruleId : String) (c : Category) :
    os.groups.get? (Override.keyOf ruleId c) =
      if os.get ruleId c = [] then none else some (os.get ruleId c) := by
  rw [get, group]
  cases hget : os.groups.get? (Override.keyOf ruleId c) with
  | none => rfl
  | some group => rw [Option.getD_some, if_neg (h _ _ hget).1]

/-- What a well kept collection has for a rule and a category is for them. -/
theorem WellKept.isFor_of_mem_get {os : Overrides} (h : os.WellKept) {ruleId : String}
    {c : Category} {o : Override} (ho : o ∈ os.get ruleId c) : o.IsFor ruleId c := by
  have hget := h.get?_groups ruleId c
  rw [if_neg (List.ne_nil_of_mem ho)] at hget
  exact (o.key_eq_iff ruleId c).mp ((h _ _ hget).2 o ho)

end Overrides

end Rulebook
