/-
**When the order of overrides does not matter.**

In a group of overrides the last one that sets the state counts, and so does the last one that gives
a severity.  Any override of the group can be brought to its end by another order.  So the order
does not matter exactly if all states that are set are the same, and all severities that are given
are the same; it is irrelevant how often something is said, and what an override has in a place that
its action does not look at.

This is what the contradictions of a collection come down to.  A group is in contradiction exactly
if it is not of one mind about the state or about the severity; where it is of one mind about
neither, the report tells of the state alone, and that is enough for another order to be noticed.

Main definitions:

* `Rulebook.Unanimous` — whatever is said, it is the same;
* `Rulebook.Overrides.Reorders` — a collection with the groups of another one, each in some order.

Main results:

* `Rulebook.Override.netEffect_eq` — the net effect of a list is what was last said;
* `Rulebook.Overrides.groupError?_eq_none_iff` — a group has no error exactly if it is of one mind
  about the state and about the severity;
* `Rulebook.Overrides.exists_order_of_groupError?` — a group with an error leaves another state, or
  another severity, of every rule in some order;
* `Rulebook.Overrides.isValid_iff_orderless` — **a collection is valid exactly if it acts alike in
  every order**, and each error comes from a group that does not.
-/

import Mathlib.Data.List.Basic
import Mathlib.Tactic.Push
import Rulebook.Override.Consistency
import Rulebook.Proofs.Override.Effect
import Rulebook.Proofs.Override.Group

set_option autoImplicit false

namespace Rulebook

open Override (netEffect NetEffect)

/-! ### What is said last -/

/-- Whatever is said, it is the same. -/
def Unanimous {α : Type} (said : List α) : Prop := ∀ x ∈ said, ∀ y ∈ said, x = y

theorem Unanimous.of_length_le_one {α : Type} {said : List α} (h : said.length ≤ 1) :
    Unanimous said := by
  match said, h with
  | [], _ =>
      intro x hx
      cases hx
  | [a], _ =>
      intro x hx y hy
      rw [List.mem_singleton.mp hx, List.mem_singleton.mp hy]

/-- Each thing is said once in a list exactly if nothing else is left without its repetitions. -/
theorem length_eraseDups_le_one_iff {α : Type} [DecidableEq α] (said : List α) :
    said.eraseDups.length ≤ 1 ↔ Unanimous said := by
  cases said with
  | nil => simp [Unanimous]
  | cons a rest =>
      have hothers : (rest.filter fun b => !b == a).eraseDups = [] ↔ ∀ b ∈ rest, b = a := by
        rw [List.eq_nil_iff_forall_not_mem]
        simp [List.mem_eraseDups]
      rw [← List.length_eq_zero_iff] at hothers
      rw [List.eraseDups_cons, List.length_cons, Nat.succ_le_succ_iff, Nat.le_zero, hothers]
      constructor
      · intro h x hx y hy
        have hall : ∀ b ∈ a :: rest, b = a := List.forall_mem_cons.mpr ⟨rfl, h⟩
        rw [hall x hx, hall y hy]
      · intro h b hb
        exact h b (List.mem_cons_of_mem a hb) a List.mem_cons_self

section Last

variable {α β : Type} {f : α → Option β} {l l' : List α}

/-- If all that is said is the same, the last of it is the same in every order. -/
theorem Unanimous.getLast?_eq_of_perm (h : Unanimous (l.filterMap f)) (hperm : l'.Perm l) :
    (l'.filterMap f).getLast? = (l.filterMap f).getLast? := by
  have hsaid : (l'.filterMap f).Perm (l.filterMap f) := hperm.filterMap f
  cases hlast : (l.filterMap f).getLast? with
  | none =>
      rw [List.getLast?_eq_none_iff] at hlast ⊢
      rw [hlast] at hsaid
      exact hsaid.eq_nil
  | some y =>
      have hy : y ∈ l.filterMap f := List.mem_of_getLast? hlast
      obtain ⟨x, hx⟩ := Option.isSome_iff_exists.mp
        (List.getLast?_isSome.mpr (List.ne_nil_of_mem (hsaid.mem_iff.mpr hy)))
      rw [hx, h x (hsaid.mem_iff.mp (List.mem_of_getLast? hx)) y hy]

/-- What is said anywhere is said last in some order. -/
theorem exists_perm_getLast?_eq {x : β} (hx : x ∈ l.filterMap f) :
    ∃ order : List α, order.Perm l ∧ (order.filterMap f).getLast? = some x := by
  obtain ⟨a, ha, hfa⟩ := List.mem_filterMap.mp hx
  obtain ⟨before, behind, rfl⟩ := List.append_of_mem ha
  refine ⟨before ++ behind ++ [a], ?_, ?_⟩
  · exact (List.perm_append_singleton a (before ++ behind)).trans List.perm_middle.symm
  · simp [hfa]

/-- If not all that is said is the same, something else is said last in some order. -/
theorem exists_perm_getLast?_ne (h : ¬ Unanimous (l.filterMap f)) :
    ∃ order : List α, order.Perm l ∧ ∃ x y, (order.filterMap f).getLast? = some x ∧
      (l.filterMap f).getLast? = some y ∧ x ≠ y := by
  -- Of two different things that are said, one is not the last as it is; it can be made the last.
  obtain ⟨x, hx, hother⟩ : ∃ x ∈ l.filterMap f, (l.filterMap f).getLast? ≠ some x := by
    by_contra hall
    push Not at hall
    refine h fun x hx y hy => ?_
    exact Option.some.inj ((hall x hx).symm.trans (hall y hy))
  obtain ⟨y, hy⟩ := Option.isSome_iff_exists.mp
    (List.getLast?_isSome.mpr (List.ne_nil_of_mem hx))
  obtain ⟨order, hperm, hlast⟩ := exists_perm_getLast?_eq hx
  refine ⟨order, hperm, x, y, hlast, hy, ?_⟩
  rintro rfl
  exact hother hy

end Last

/-! ### Lists of overrides -/

namespace Override

open Overrides (givenSeverity?)

/-- The state that an override sets. -/
def givenState? (o : Override) : Option Bool := (NetEffect.nothing.after o).enabled

theorem after_nothing_eq (o : Override) :
    NetEffect.nothing.after o = ⟨o.givenState?, givenSeverity? o⟩ := by
  cases h : o.action <;>
    simp [givenState?, givenSeverity?, NetEffect.after, NetEffect.nothing, h]

/-- **The net effect of a list is what was last said** of the state, and of the severity. -/
theorem netEffect_eq (os : List Override) :
    netEffect os = ⟨(os.filterMap givenState?).getLast?, (os.filterMap givenSeverity?).getLast?⟩ := by
  induction os with
  | nil => rfl
  | cons o os ih =>
      rw [netEffect_cons, ih, after_nothing_eq, NetEffect.followedBy, List.filterMap_cons,
        List.filterMap_cons]
      congr 1
      · cases o.givenState? with
        | none => simp
        | some state => simp [List.getLast?_cons, Option.or_some]
      · cases givenSeverity? o with
        | none => simp
        | some severity => simp [List.getLast?_cons, Option.or_some]

/-- A list that is of one mind leaves the same in every order. -/
theorem netEffect_eq_of_perm {os ps : List Override} (hstate : Unanimous (os.filterMap givenState?))
    (hseverity : Unanimous (os.filterMap givenSeverity?)) (hperm : ps.Perm os) :
    netEffect ps = netEffect os := by
  rw [netEffect_eq, netEffect_eq, hstate.getLast?_eq_of_perm hperm,
    hseverity.getLast?_eq_of_perm hperm]

/-- A list that is not of one mind about the state leaves another state of every rule in some
order. -/
theorem exists_order_enabled_ne {os : List Override} (h : ¬ Unanimous (os.filterMap givenState?)) :
    ∃ order : List Override, order.Perm os ∧
      ∀ rule, (applyList order rule).enabled ≠ (applyList os rule).enabled := by
  obtain ⟨order, hperm, x, y, hx, hy, hne⟩ := exists_perm_getLast?_ne h
  refine ⟨order, hperm, fun rule => ?_⟩
  rw [applyList_eq, applyList_eq, netEffect_eq, netEffect_eq, hx, hy]
  exact hne

/-- A list that is not of one mind about the severity leaves another severity of every rule in some
order. -/
theorem exists_order_severity_ne {os : List Override}
    (h : ¬ Unanimous (os.filterMap givenSeverity?)) :
    ∃ order : List Override, order.Perm os ∧
      ∀ rule, (applyList order rule).severity ≠ (applyList os rule).severity := by
  obtain ⟨order, hperm, x, y, hx, hy, hne⟩ := exists_perm_getLast?_ne h
  refine ⟨order, hperm, fun rule => ?_⟩
  rw [applyList_eq, applyList_eq, netEffect_eq, netEffect_eq, hx, hy]
  exact hne

end Override

/-! ### Groups in contradiction -/

namespace Overrides

open Override (givenState?)

/-- A group has an override that sets a state exactly if it has one with the action for it. -/
theorem hasAction_iff (group : List Override) (state : Bool) :
    hasAction group (if state then .enable else .disable) = true ↔
      state ∈ group.filterMap givenState? := by
  rw [hasAction, List.any_eq_true, List.mem_filterMap]
  refine exists_congr fun o => and_congr_right fun _ => ?_
  cases state <;> cases h : o.action <;>
    simp [givenState?, NetEffect.after, NetEffect.nothing, h]

/-- A group enables its rule and disables it exactly if it is not of one mind about the state. -/
theorem opposed_iff (group : List Override) :
    (hasAction group .enable && hasAction group .disable) = true ↔
      ¬ Unanimous (group.filterMap givenState?) := by
  have henables : hasAction group .enable = true ↔ true ∈ group.filterMap givenState? :=
    hasAction_iff group true
  have hdisables : hasAction group .disable = true ↔ false ∈ group.filterMap givenState? :=
    hasAction_iff group false
  rw [Bool.and_eq_true, henables, hdisables]
  constructor
  · rintro ⟨henable, hdisable⟩ hall
    cases hall true henable false hdisable
  · intro hnot
    by_contra hboth
    refine hnot fun x hx y hy => ?_
    cases x <;> cases y
    · rfl
    · exact absurd ⟨hy, hx⟩ hboth
    · exact absurd ⟨hx, hy⟩ hboth
    · rfl

/-- A group gives several severities exactly if it is not of one mind about them. -/
theorem several_iff (group : List Override) :
    1 < (givenSeverities group).length ↔ ¬ Unanimous (group.filterMap givenSeverity?) := by
  rw [← length_eraseDups_le_one_iff, Nat.not_le]
  rfl

/-- **A group has no error exactly if it is of one mind** about the state and about the severity. -/
theorem groupError?_eq_none_iff (key : String) (group : List Override) :
    groupError? key group = none ↔
      Unanimous (group.filterMap givenState?) ∧ Unanimous (group.filterMap givenSeverity?) := by
  rw [groupError?, groupFault?]
  by_cases hshort : group.length ≤ 1
  · -- A single override says each of the two once at most.
    have hstate : (group.filterMap givenState?).length ≤ 1 :=
      Nat.le_trans (List.length_filterMap_le _ _) hshort
    have hseverity : (group.filterMap givenSeverity?).length ≤ 1 :=
      Nat.le_trans (List.length_filterMap_le _ _) hshort
    simp [hshort, Unanimous.of_length_le_one hstate, Unanimous.of_length_le_one hseverity]
  · rw [if_neg hshort]
    by_cases hopposed : (hasAction group .enable && hasAction group .disable) = true
    · simp [hopposed, (opposed_iff group).mp hopposed]
    · have hstate := not_not.mp (mt (opposed_iff group).mpr hopposed)
      rw [if_neg hopposed]
      by_cases hseveral : 1 < (givenSeverities group).length
      · simp [hseveral, (several_iff group).mp hseveral]
      · have hseverity := not_not.mp (mt (several_iff group).mpr hseveral)
        simp [hseveral, hstate, hseverity]

/-- **A group with an error leaves another state, or another severity, of every rule** in some
order. -/
theorem exists_order_of_groupError? {key error : String} {group : List Override}
    (h : groupError? key group = some error) :
    ∃ order : List Override, order.Perm group ∧ ∀ rule,
      (Override.applyList order rule).enabled ≠ (Override.applyList group rule).enabled ∨
        (Override.applyList order rule).severity ≠ (Override.applyList group rule).severity := by
  by_cases hstate : Unanimous (group.filterMap givenState?)
  · have hseverity : ¬ Unanimous (group.filterMap givenSeverity?) := by
      intro hseverity
      rw [(groupError?_eq_none_iff key group).mpr ⟨hstate, hseverity⟩] at h
      cases h
    obtain ⟨order, hperm, hne⟩ := Override.exists_order_severity_ne hseverity
    exact ⟨order, hperm, fun rule => Or.inr (hne rule)⟩
  · obtain ⟨order, hperm, hne⟩ := Override.exists_order_enabled_ne hstate
    exact ⟨order, hperm, fun rule => Or.inl (hne rule)⟩

/-! ### Collections in another order -/

/-- A collection has the groups of another one, each of them in some order. -/
def Reorders (ps os : Overrides) : Prop :=
  ∀ key, Option.Rel List.Perm (ps.groups.get? key) (os.groups.get? key)

/-- If no group has an error, every group leaves the same in the other order. -/
theorem Reorders.netEffect_get {ps os : Overrides} (h : ps.Reorders os)
    (hvalid : ∀ key group, os.groups.get? key = some group → groupError? key group = none)
    (ruleId : String) (c : Category) :
    netEffect (ps.get ruleId c) = netEffect (os.get ruleId c) := by
  have hrel := h (Override.keyOf ruleId c)
  have hnone := hvalid (Override.keyOf ruleId c)
  rw [get, get, group, group]
  generalize ps.groups.get? (Override.keyOf ruleId c) = ordered at hrel ⊢
  generalize os.groups.get? (Override.keyOf ruleId c) = found at hrel hnone ⊢
  cases hrel with
  | none => rfl
  | @some order group hperm =>
      obtain ⟨hstate, hseverity⟩ := (groupError?_eq_none_iff _ group).mp (hnone group rfl)
      exact Override.netEffect_eq_of_perm hstate hseverity hperm

/-- A collection with one of its groups in another order. -/
def withOrder (os : Overrides) (key : String) (order : List Override) : Overrides :=
  ⟨os.groups.insert key order⟩

theorem reorders_withOrder {os : Overrides} {key : String} {group order : List Override}
    (hget : os.groups.get? key = some group) (hperm : order.Perm group) :
    (os.withOrder key order).Reorders os := by
  intro other
  rw [withOrder, SortedMap.get?_insert]
  by_cases hother : other = key
  · rw [if_pos hother, hother, hget]
    exact Option.Rel.some hperm
  · rw [if_neg hother]
    cases os.groups.get? other with
    | none => exact Option.Rel.none
    | some group => exact Option.Rel.some (List.Perm.refl group)

theorem get_withOrder (os : Overrides) (ruleId : String) (c : Category) (order : List Override) :
    (os.withOrder (Override.keyOf ruleId c) order).get ruleId c = order := by
  rw [get, group, withOrder, SortedMap.get?_insert, if_pos rfl, Option.getD_some]

/-- The errors of a collection come from its groups. -/
theorem mem_errors_iff (os : Overrides) (registry : Registry) (error : String) :
    error ∈ (os.assess registry).errors ↔
      ∃ key group, os.groups.get? key = some group ∧ groupError? key group = some error := by
  rw [assess, List.mem_filterMap]
  constructor
  · rintro ⟨⟨key, group⟩, hmem, herror⟩
    exact ⟨key, group, (os.groups.mem_entries_iff key group).mp hmem, herror⟩
  · rintro ⟨key, group, hget, herror⟩
    exact ⟨(key, group), (os.groups.mem_entries_iff key group).mpr hget, herror⟩

theorem isValid_assess_iff (os : Overrides) (registry : Registry) :
    (os.assess registry).isValid = true ↔
      ∀ key group, os.groups.get? key = some group → groupError? key group = none := by
  rw [Assessment.isValid, List.isEmpty_iff, List.eq_nil_iff_forall_not_mem]
  constructor
  · intro h key group hget
    refine Option.eq_none_iff_forall_ne_some.mpr fun error herror => ?_
    exact h error ((os.mem_errors_iff registry error).mpr ⟨key, group, hget, herror⟩)
  · intro h error herror
    obtain ⟨key, group, hget, hsome⟩ := (os.mem_errors_iff registry error).mp herror
    rw [h key group hget] at hsome
    cases hsome

/-- A group with an error can be put in an order in which the collection leaves another state, or
another severity, of every rule with the id of the group. -/
theorem WellKept.exists_reorders {os : Overrides} (hkept : os.WellKept) {key error : String}
    {group : List Override} (hget : os.groups.get? key = some group)
    (herror : groupError? key group = some error) :
    ∃ ruleId c, key = Override.keyOf ruleId c ∧ ∃ ps : Overrides, ps.Reorders os ∧
      ∀ rule : Rule, rule.id = ruleId →
        (ps.apply rule c).enabled ≠ (os.apply rule c).enabled ∨
          (ps.apply rule c).severity ≠ (os.apply rule c).severity := by
  obtain ⟨ruleId, c, rfl, hgroup⟩ := hkept.exists_key hget
  obtain ⟨order, hperm, hdiffers⟩ := exists_order_of_groupError? herror
  refine ⟨ruleId, c, rfl, os.withOrder _ order, reorders_withOrder hget hperm, ?_⟩
  intro rule hid
  rw [apply, apply, hid, get_withOrder, hgroup]
  exact hdiffers rule

/-- A rule of which nothing is known but its id. -/
def bareRule (id : String) : Rule where
  id := id
  name := id
  description := ""
  rationale := ""
  category := [.universal]
  severity := .warning
  enabled := true
  examples := .none
  standard := none
  source := none

/-- **A collection is valid exactly if it acts alike in every order**, on every rule and for every
category, whatever overrides were added to those of whatever configuration and whatever rules the
registry has.  And each error comes from a group which, in some order, leaves another state, or
another severity, of the rule that it is for. -/
theorem isValid_iff_orderless (config : Configuration) (added : List Override)
    (registry : Registry) :
    let os := (ofConfiguration config).addAll added
    ((os.assess registry).isValid = true ↔
      ∀ ps : Overrides, ps.Reorders os → ∀ (rule : Rule) (c : Category),
        ps.apply rule c = os.apply rule c) ∧
    ∀ error ∈ (os.assess registry).errors, ∃ ruleId c group,
      os.groups.get? (Override.keyOf ruleId c) = some group ∧
      groupError? (Override.keyOf ruleId c) group = some error ∧
      ∃ ps : Overrides, ps.Reorders os ∧ ∀ rule : Rule, rule.id = ruleId →
        (ps.apply rule c).enabled ≠ (os.apply rule c).enabled ∨
          (ps.apply rule c).severity ≠ (os.apply rule c).severity := by
  intro os
  have hkept : os.WellKept := (wellKept_ofConfiguration config).addAll added
  refine ⟨?_, fun error herror => ?_⟩
  · rw [isValid_assess_iff]
    constructor
    · intro hvalid ps hps rule c
      rw [apply_eq, apply_eq, hps.netEffect_get hvalid]
    · intro halike key group hget
      refine Option.eq_none_iff_forall_ne_some.mpr fun error herror => ?_
      obtain ⟨ruleId, c, -, ps, hps, hdiffers⟩ := hkept.exists_reorders hget herror
      -- Any rule with the id of the group shows the difference.
      rcases hdiffers (bareRule ruleId) rfl with henabled | hseverity
      · exact henabled (by rw [halike ps hps])
      · exact hseverity (by rw [halike ps hps])
  · obtain ⟨key, group, hget, hsome⟩ := (os.mem_errors_iff registry error).mp herror
    obtain ⟨ruleId, c, rfl, hreorders⟩ := hkept.exists_reorders hget hsome
    exact ⟨ruleId, c, group, hget, hsome, hreorders⟩

/-- Overrides of which two oppose each other, and two give a rule different severities. -/
def clashingOverrides : List Override :=
  [⟨"kernel-types", .kernel, .disable, none, "too strict", .system⟩,
    ⟨"kernel:locks", .universal, .changeSeverity, some .info, "", .system⟩,
    ⟨"kernel-types", .kernel, .enable, some .warning, "", .system⟩,
    ⟨"kernel:locks", .universal, .changeSeverity, none, "", .system⟩,
    ⟨"kernel:locks", .universal, .changeSeverity, some .error, "", .system⟩]

/-- The two groups have an error each, and the collection acts otherwise in another order. -/
theorem clashingOverrides_order_matters :
    let os := (ofConfiguration .standard).addAll clashingOverrides
    (os.assess .empty).errors =
      ["conflicting overrides for kernel-types:kernel: both enable and disable",
        "conflicting overrides for kernel:locks:universal: multiple severities (INFO, ERROR)"] ∧
      (¬ ∀ ps : Overrides, ps.Reorders os → ∀ (rule : Rule) (c : Category),
        ps.apply rule c = os.apply rule c) ∧
      ∃ ruleId c group, os.groups.get? (Override.keyOf ruleId c) = some group ∧
        groupError? (Override.keyOf ruleId c) group = some
          "conflicting overrides for kernel-types:kernel: both enable and disable" ∧
        ∃ ps : Overrides, ps.Reorders os ∧ ∀ rule : Rule, rule.id = ruleId →
          (ps.apply rule c).enabled ≠ (os.apply rule c).enabled ∨
            (ps.apply rule c).severity ≠ (os.apply rule c).severity := by
  intro os
  have herrors : (os.assess .empty).errors =
      ["conflicting overrides for kernel-types:kernel: both enable and disable",
        "conflicting overrides for kernel:locks:universal: multiple severities (INFO, ERROR)"] := by
    decide +kernel
  obtain ⟨hiff, hcomes⟩ := isValid_iff_orderless .standard clashingOverrides .empty
  refine ⟨herrors, fun halike => ?_, ?_⟩
  · have hvalid := hiff.mpr halike
    rw [Assessment.isValid, herrors] at hvalid
    cases hvalid
  · exact hcomes _ (herrors ▸ List.mem_cons_self)

end Overrides

end Rulebook
