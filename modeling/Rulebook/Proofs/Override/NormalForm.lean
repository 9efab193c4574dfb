/-
**The normal form of a collection.**

A collection that is written as settings and read back has the same effect as before, but not the
same overrides.  Of each group there is left what its net effect is written as: an override for the
state, if it leaves one, and one for the severity, if it leaves one.  A group that leaves nothing is
gone.  So no group says a thing twice, and none contradicts itself, whatever the groups were like
before.

Nor is anything lost the second time.  A group in normal form has the net effect of the group that
it comes from, and where a reason is written for the group, its last override is the one that has
the reason; so the two are written alike (`Rulebook.Fragment.addGroup_normal`).  Only a group that
is gone is missed: without an effect it is still written, as the state of a rule in force or as a
section without content, and the second time it is not.  Such a group changes the severity of its
rule without giving one, and does nothing else (`Rulebook.Override.Idle`).

Main definitions:

* `Rulebook.Override.Idle` — a group without an effect.

Main results:

* `Rulebook.Override.countP_normal_le` — the normal form of a group says nothing twice;
* `Rulebook.Fragment.addGroup_normal` — a group with an effect is written like its normal form;
* `Rulebook.Overrides.groups_rewritten` — if every group has an effect, each of them is read back in
  its normal form, under its key;
* `Rulebook.Overrides.reread_normal` — **what is read back has no contradictions, says nothing
  twice, and is written as before**.
-/

import Mathlib.Data.List.Basic
import Rulebook.Proofs.Override.Export
import Rulebook.Proofs.Override.InForce
import Rulebook.Proofs.Override.Order

set_option autoImplicit false

namespace Rulebook

open Override (netEffect NetEffect derived normal)

/-! ### Groups in normal form -/

namespace Override

open Fragment (placesFor stateKey? stateOf)
open Overrides (givenSeverity?)

/-- A group without an effect: it changes the severity without giving one, and does nothing else. -/
def Idle (group : List Override) : Prop :=
  ∀ o ∈ group, o.action = .changeSeverity ∧ o.newSeverity = none

instance (group : List Override) : Decidable (Idle group) :=
  inferInstanceAs (Decidable (∀ o ∈ group, _))

/-- A group has no effect exactly if it is idle. -/
theorem netEffect_eq_nothing_iff (group : List Override) :
    netEffect group = .nothing ↔ Idle group := by
  have hidle (o : Override) : o.givenState? = none ∧ givenSeverity? o = none ↔
      o.action = .changeSeverity ∧ o.newSeverity = none := by
    cases h : o.action <;>
      simp [givenState?, givenSeverity?, NetEffect.after, NetEffect.nothing, h]
  rw [netEffect_eq, NetEffect.nothing, NetEffect.mk.injEq, List.getLast?_eq_none_iff,
    List.getLast?_eq_none_iff, List.filterMap_eq_nil_iff, List.filterMap_eq_nil_iff]
  constructor
  · rintro ⟨hstate, hseverity⟩ o ho
    exact (hidle o).mp ⟨hstate o ho, hseverity o ho⟩
  · intro h
    exact ⟨fun o ho => ((hidle o).mpr (h o ho)).1, fun o ho => ((hidle o).mpr (h o ho)).2⟩

variable {last : Override} {e : NetEffect} {group : List Override}

/-- What comes from the places of a net effect with something in it ends with an override for their
rule and category; if the effect becomes a record, the override has the reason of the record. -/
theorem exists_last_derived (last : Override) (he : e ≠ .nothing) :
    ∃ o, (derived last e).getLast? = some o ∧ o.IsFor last.ruleId last.category ∧
      (stateKey? last.ruleId last.category = none → o.reason = last.reason) := by
  obtain ⟨ruleId, c, action, newSeverity, reason, appliedBy⟩ := last
  obtain ⟨enabled, severity⟩ := e
  rw [derived, placesFor]
  cases hkey : stateKey? ruleId c with
  | some key =>
      obtain ⟨rfl, rfl⟩ := Fragment.stateKey?_eq_some_iff.mp hkey
      rcases enabled with _ | _ | _ <;> rcases severity with _ | _ | _ | _
      · exact absurd rfl he
      all_goals exact ⟨_, rfl, ⟨rfl, rfl⟩, fun h => absurd h (Option.some_ne_none key)⟩
  | none =>
      rcases enabled with _ | _ | _ <;> rcases severity with _ | _
      · exact absurd rfl he
      all_goals exact ⟨_, rfl, ⟨rfl, rfl⟩, fun _ => rfl⟩

/-- What comes from the places of a net effect sets the state once at most, and changes the severity
once at most. -/
theorem countP_derived_le (last : Override) (e : NetEffect) :
    (derived last e).countP (fun o => decide o.SetsState) ≤ 1 ∧
      (derived last e).countP (fun o => decide (o.action = .changeSeverity)) ≤ 1 := by
  obtain ⟨enabled, severity⟩ := e
  rw [derived, placesFor]
  -- the state and the severity by their values, as the places depend on them
  cases stateKey? last.ruleId last.category <;> rcases enabled with _ | _ | _ <;>
    rcases severity with _ | _ | _ | _ <;>
    simp [Places.overrides, Places.inSection, stateOf, SetsState, Fragment.entryOf?,
      Configuration.stateOverride?, CategorySection.grading, CategorySection.enabling,
      CategorySection.recorded]

/-- **The normal form of a group says nothing twice.** -/
theorem countP_normal_le (group : List Override) :
    (normal group).countP (fun o => decide o.SetsState) ≤ 1 ∧
      (normal group).countP (fun o => decide (o.action = .changeSeverity)) ≤ 1 := by
  rw [normal]
  cases group.getLast? with
  | none => exact ⟨Nat.zero_le 1, Nat.zero_le 1⟩
  | some last => exact countP_derived_le last (netEffect group)

/-- The normal form of a group is empty exactly if the group is idle. -/
theorem normal_eq_nil_iff (group : List Override) : normal group = [] ↔ Idle group := by
  rw [← netEffect_eq_nothing_iff]
  constructor
  · intro h
    rw [← netEffect_normal, h, netEffect_nil]
  · intro h
    rw [normal, h]
    cases group.getLast? with
    | none => rfl
    | some last =>
        rw [Option.elim_some, derived, placesFor]
        cases stateKey? last.ruleId last.category <;> rfl

/-- A group in normal form is not in contradiction. -/
theorem groupError?_normal (key : String) (group : List Override) :
    Overrides.groupError? key (normal group) = none := by
  obtain ⟨hstate, hseverity⟩ := countP_normal_le group
  rw [Overrides.groupError?_eq_none_iff]
  refine ⟨Unanimous.of_length_le_one ?_, Unanimous.of_length_le_one ?_⟩
  · rw [List.length_filterMap_eq_countP]
    refine Nat.le_trans (List.countP_mono_left fun o _ ho => ?_) hstate
    rw [decide_eq_true_iff, setsState_iff]
    exact Option.isSome_iff_ne_none.mp ho
  · rw [List.length_filterMap_eq_countP]
    refine Nat.le_trans (List.countP_mono_left fun o _ ho => ?_) hseverity
    rw [decide_eq_true_iff]
    by_contra haction
    rw [givenSeverity?, if_neg haction] at ho
    cases ho

end Override

/-! ### Writing groups in normal form -/

open Override (Idle)

/-- **A group with an effect and its normal form are written alike.** -/
theorem Fragment.addGroup_normal {group : List Override} (h : ¬ Idle group) (f : Fragment) :
    f.addGroup (normal group) = f.addGroup group := by
  rw [← Override.netEffect_eq_nothing_iff] at h
  cases hlast : group.getLast? with
  | none =>
      rw [List.getLast?_eq_none_iff] at hlast
      exact absurd (congrArg netEffect hlast) h
  | some last =>
      have hnormal : normal group = derived last (netEffect group) := by
        rw [normal, hlast, Option.elim_some]
      obtain ⟨o, ho, ⟨hid, hc⟩, hreason⟩ := Override.exists_last_derived last h
      rw [addGroup_of_getLast? hlast, addGroup_of_getLast? (hnormal ▸ ho), hid, hc,
        Override.netEffect_normal]
      cases hkey : stateKey? last.ruleId last.category with
      | some key => rfl
      | none =>
          dsimp only
          rw [addRecord, addRecord, hid, hc, hreason hkey]

namespace Overrides

variable {os : Overrides}

/-- The collection that is read back from what is written of a collection. -/
def rewritten (os : Overrides) : Overrides := ofConfiguration os.fragment.toConfiguration

theorem reread_eq (os : Overrides) : os.reread = .ok os.rewritten := by
  rw [reread, Fragment.ofJson_toJson os.plain_fragment]
  rfl

theorem wellKept_rewritten (os : Overrides) : os.rewritten.WellKept :=
  wellKept_ofConfiguration _

/-- Every group that is read back is the normal form of a group. -/
theorem WellKept.exists_normal (h : os.WellKept) {key : String} {group : List Override}
    (hget : os.rewritten.groups.get? key = some group) :
    ∃ original, group = normal original := by
  obtain ⟨ruleId, c, rfl, rfl⟩ := os.wellKept_rewritten.exists_key hget
  exact ⟨os.get ruleId c, get_toConfiguration_fragment h ruleId c⟩

/-- **If every group has an effect, each of them is read back in its normal form.** -/
theorem groups_rewritten (h : os.WellKept)
    (hidle : ∀ key group, os.groups.get? key = some group → ¬ Idle group) :
    os.rewritten.groups = os.groups.mapValues normal := by
  refine SortedMap.ext_get? fun key => ?_
  rw [SortedMap.get?_mapValues]
  cases hget : os.groups.get? key with
  | some group =>
      obtain ⟨ruleId, c, rfl, rfl⟩ := h.exists_key hget
      rw [os.wellKept_rewritten.get?_groups, rewritten, get_toConfiguration_fragment h,
        if_neg fun hnil => hidle _ _ hget ((Override.normal_eq_nil_iff _).mp hnil)]
      rfl
  | none =>
      rw [Option.map_none, Option.eq_none_iff_forall_ne_some]
      intro group hgroup
      obtain ⟨ruleId, c, rfl, rfl⟩ := os.wellKept_rewritten.exists_key hgroup
      refine (os.wellKept_rewritten _ _ hgroup).1 ?_
      rw [rewritten, get_toConfiguration_fragment h, get, Overrides.group, hget]
      rfl

/-- If every group has an effect, what is read back is written as before. -/
theorem fragment_rewritten (h : os.WellKept)
    (hidle : ∀ key group, os.groups.get? key = some group → ¬ Idle group) :
    os.rewritten.fragment = os.fragment := by
  rw [fragment, fragment, groups_rewritten h hidle, SortedMap.values_mapValues, List.foldl_map]
  refine List.foldl_ext _ _ _ fun f group hgroup => ?_
  obtain ⟨entry, hentry, rfl⟩ := List.mem_map.mp hgroup
  exact Fragment.addGroup_normal (hidle _ _ ((os.groups.mem_entries_iff _ _).mp hentry)) f

/-- **What is read back of a collection is its normal form**, whatever overrides were added to those
of whatever configuration.  Reading succeeds; the collection that is read has no errors, for any
registry, and no two overrides under one key that set a state, or that change the severity; and if
no group is idle, it is written as the collection before it was, reasons included. -/
theorem reread_normal (config : Configuration) (added : List Override) :
    let os := (ofConfiguration config).addAll added
    ∃ again : Overrides, os.reread = .ok again ∧
      (∀ registry : Registry, (again.assess registry).errors = []) ∧
      (∀ key group, again.groups.get? key = some group →
        group.countP (fun o => decide o.SetsState) ≤ 1 ∧
          group.countP (fun o => decide (o.action = .changeSeverity)) ≤ 1) ∧
      ((∀ key group, os.groups.get? key = some group → ¬ Idle group) →
        again.fragment = os.fragment) := by
  intro os
  have hkept : os.WellKept := (wellKept_ofConfiguration config).addAll added
  refine ⟨os.rewritten, os.reread_eq, fun registry => ?_, fun key group hget => ?_,
    fragment_rewritten hkept⟩
  · rw [List.eq_nil_iff_forall_not_mem]
    intro error hmem
    obtain ⟨key, group, hget, herror⟩ := (os.rewritten.mem_errors_iff registry error).mp hmem
    obtain ⟨original, rfl⟩ := hkept.exists_normal hget
    rw [Override.groupError?_normal] at herror
    cases herror
  · obtain ⟨original, rfl⟩ := hkept.exists_normal hget
    exact Override.countP_normal_le original

/-- The clashing overrides have errors; read back they have none, and are written as before. -/
theorem clashingOverrides_reread :
    let os := (ofConfiguration .standard).addAll clashingOverrides
    (os.assess .empty).errors.length = 2 ∧
      ∃ again : Overrides, os.reread = .ok again ∧ (again.assess .empty).errors = [] ∧
        again.fragment = os.fragment := by
  intro os
  have heffect : ∀ entry ∈ os.groups.entries, ¬ Idle entry.2 := by decide +kernel
  obtain ⟨again, hread, herrors, -, hsame⟩ := reread_normal .standard clashingOverrides
  refine ⟨by decide +kernel, again, hread, herrors .empty, hsame fun key group hget => ?_⟩
  exact heffect (key, group) ((os.groups.mem_entries_iff key group).mpr hget)

end Overrides

end Rulebook
