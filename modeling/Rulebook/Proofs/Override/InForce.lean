/-
**Whether a rule is in force.**

The question is answered in two ways.  One goes through the overrides of a configuration, keeps
those of a rule for some categories, and replays them on a state that begins as "in force".  The
other one applies a collection of overrides, group by group, to a copy of the rule, whose own state
it begins with.  Both end in the state that the net effect of the same overrides leaves, and they
differ only in the state that they begin with.  So they agree on a rule that is stored as in force,
and on any rule whose state some override sets.

Main definitions:

* `Rulebook.Override.SetsState` — an override that puts a rule in force or out of force;
* `Rulebook.Configuration.SetsState` — a configuration with such an override for a rule.

Main results:

* `Rulebook.Override.enabled_netEffect_eq_none_iff` — the state is left open exactly if no override
  sets it;
* `Rulebook.Configuration.isRuleEnabled_eq_enabled_applyLayered` — **the two answers agree**.
-/

import Mathlib.Data.List.Basic
import Mathlib.Tactic.Push
import Rulebook.Proofs.Override.Effect
import Rulebook.Proofs.Override.Group

set_option autoImplicit false

namespace Rulebook

open Override (netEffect NetEffect)

/-! ### States -/

namespace Override

/-- An override that puts its rule in force or out of force. -/
def SetsState (o : Override) : Prop := o.action = .enable ∨ o.action = .disable

instance (o : Override) : Decidable o.SetsState := inferInstanceAs (Decidable (_ ∨ _))

theorem setsState_iff (o : Override) :
    o.SetsState ↔ (NetEffect.nothing.after o).enabled ≠ none := by
  cases h : o.action <;> simp [SetsState, NetEffect.after, NetEffect.nothing, h]

/-- One step of the replay is one step of the net effect. -/
theorem switches_eq (enabled : Bool) (o : Override) :
    switches enabled o = (NetEffect.nothing.after o).enabled.getD enabled := by
  cases h : o.action <;> simp [switches, NetEffect.after, NetEffect.nothing, h]

/-- **Replaying overrides on a state leaves the state of their net effect**, or the state that the
replay began with if they leave it open. -/
theorem foldl_switches (os : List Override) (enabled : Bool) :
    os.foldl switches enabled = (netEffect os).enabled.getD enabled := by
  induction os generalizing enabled with
  | nil => rfl
  | cons o os ih =>
      rw [List.foldl_cons, ih, switches_eq, netEffect_cons]
      exact Option.getD_or.symm

/-- The state is left open exactly if no override sets it. -/
theorem enabled_netEffect_eq_none_iff (os : List Override) :
    (netEffect os).enabled = none ↔ ∀ o ∈ os, ¬ o.SetsState := by
  induction os with
  | nil => simp [NetEffect.nothing]
  | cons o os ih =>
      have hfollowed : (netEffect (o :: os)).enabled =
          (netEffect os).enabled.or (NetEffect.nothing.after o).enabled := by
        rw [netEffect_cons]
        rfl
      have ho : ¬ o.SetsState ↔ (NetEffect.nothing.after o).enabled = none := by
        rw [setsState_iff, not_not]
      rw [hfollowed, Option.or_eq_none_iff, ih, List.forall_mem_cons, ho, and_comm]

end Override

/-! ### The overrides of a rule for some categories -/

namespace Configuration

/-- A configuration has an override that puts a rule in force or out of force, for the universal
category or one of those given. -/
def SetsState (config : Configuration) (ruleId : String) (categories : List Category) : Prop :=
  ∃ o ∈ config.overrides, o.ruleId = ruleId ∧
    (o.category = .universal ∨ o.category ∈ categories) ∧ o.SetsState

instance (config : Configuration) (ruleId : String) (categories : List Category) :
    Decidable (config.SetsState ruleId categories) :=
  inferInstanceAs (Decidable (∃ o ∈ config.overrides, _))

/-- The overrides that are replayed are those of the groups of the collection, in the same order:
the key of a group determines its rule and its category. -/
theorem flatMap_filter_overrides (config : Configuration) (ruleId : String)
    (categories : List Category) :
    (categories.flatMap fun category =>
        config.overrides.filter fun o => o.category == category && o.ruleId == ruleId) =
      categories.flatMap ((Overrides.ofConfiguration config).get ruleId) := by
  refine List.flatMap_congr fun category _ => ?_
  rw [Overrides.get_ofConfiguration]
  refine List.filter_congr fun o _ => ?_
  rw [Bool.eq_iff_iff, decide_eq_true_iff, Bool.and_eq_true, beq_iff_eq, beq_iff_eq, and_comm]
  rfl

theorem isRuleEnabled_eq (config : Configuration) (ruleId : String) (categories : List Category) :
    config.isRuleEnabled ruleId categories =
      ((Overrides.ofConfiguration config).effect ruleId categories).enabled.getD true := by
  rw [isRuleEnabled, flatMap_filter_overrides, Override.foldl_switches]
  rfl

/-- A configuration sets the state of a rule exactly if its collection does not leave it open. -/
theorem setsState_iff (config : Configuration) (ruleId : String) (categories : List Category) :
    config.SetsState ruleId categories ↔
      ((Overrides.ofConfiguration config).effect ruleId categories).enabled ≠ none := by
  rw [Overrides.effect, ne_eq, Override.enabled_netEffect_eq_none_iff]
  push Not
  constructor
  · rintro ⟨o, ho, hid, hcategory, hstate⟩
    refine ⟨o, List.mem_flatMap.mpr ⟨o.category, Overrides.mem_layers.mpr hcategory, ?_⟩, hstate⟩
    rw [Overrides.get_ofConfiguration]
    exact List.mem_filter.mpr ⟨ho, decide_eq_true ⟨hid, rfl⟩⟩
  · rintro ⟨o, ho, hstate⟩
    obtain ⟨category, hcategory, hget⟩ := List.mem_flatMap.mp ho
    rw [Overrides.get_ofConfiguration] at hget
    obtain ⟨hmem, hfor⟩ := List.mem_filter.mp hget
    obtain ⟨hid, rfl⟩ := of_decide_eq_true hfor
    exact ⟨o, hmem, hid, Overrides.mem_layers.mp hcategory, hstate⟩

/-! ### The two answers -/

/-- **The two answers agree.**  A rule that is stored as in force is in force for a list of
categories, as far as a configuration tells, exactly if the copy with the layers of the
configuration is.  The same holds of a rule that is stored as out of force, if the configuration
sets its state; and if it does not, the layers leave the rule out of force. -/
theorem isRuleEnabled_eq_enabled_applyLayered (config : Configuration) (rule : Rule)
    (categories : List Category) :
    (rule.enabled = true →
      config.isRuleEnabled rule.id categories =
        ((Overrides.ofConfiguration config).applyLayered rule categories).enabled) ∧
    (rule.enabled = false → config.SetsState rule.id categories →
      config.isRuleEnabled rule.id categories =
        ((Overrides.ofConfiguration config).applyLayered rule categories).enabled) ∧
    (rule.enabled = false → ¬ config.SetsState rule.id categories →
      ((Overrides.ofConfiguration config).applyLayered rule categories).enabled = false) := by
  rw [isRuleEnabled_eq, Overrides.applyLayered_eq, NetEffect.enabled_applyTo, setsState_iff]
  refine ⟨fun hstored => ?_, fun _ hset => ?_, fun hstored hopen => ?_⟩
  · rw [hstored]
  · obtain ⟨state, hstate⟩ := Option.ne_none_iff_exists'.mp hset
    rw [hstate]
    rfl
  · rw [not_not.mp hopen]
    exact hstored

/-- A rule of the kernel category that is stored as in force or out of force. -/
def storedRule (id : String) (enabled : Bool) : Rule where
  id := id
  name := id
  description := ""
  rationale := ""
  category := [.kernel]
  severity := .warning
  enabled := enabled
  examples := .none
  standard := none
  source := none

/-- The settings of a project whose kernel category disables one rule and enables another one, which
the universal category disables. -/
def lockSettings : Configuration :=
  { Configuration.standard with
    sections := (SortedMap.empty.insert .kernel
      { CategorySection.empty with
        disabledRules := ["kernel-types"], enabledRules := ["kernel:locks"] }).insert .universal
      { CategorySection.empty with disabledRules := ["kernel:locks"] } }

/-- The answers for a rule stored as in force, for one stored as out of force whose state is set
twice, and for one stored as out of force that the settings do not mention. -/
theorem lockSettings_inForce :
    ((storedRule "kernel-types" true).enabled = true ∧
      lockSettings.isRuleEnabled "kernel-types" [.kernel] =
        ((Overrides.ofConfiguration lockSettings).applyLayered (storedRule "kernel-types" true)
          [.kernel]).enabled) ∧
    ((storedRule "kernel:locks" false).enabled = false ∧
      lockSettings.SetsState "kernel:locks" [.kernel, .universal] ∧
      lockSettings.isRuleEnabled "kernel:locks" [.kernel, .universal] =
        ((Overrides.ofConfiguration lockSettings).applyLayered (storedRule "kernel:locks" false)
          [.kernel, .universal]).enabled) ∧
    ((storedRule "kernel" false).enabled = false ∧
      ¬ lockSettings.SetsState "kernel" [.kernel] ∧
      ((Overrides.ofConfiguration lockSettings).applyLayered (storedRule "kernel" false)
        [.kernel]).enabled = false) := by
  have hset : lockSettings.SetsState "kernel:locks" [.kernel, .universal] := by decide +kernel
  have hopen : ¬ lockSettings.SetsState "kernel" [.kernel] := by decide +kernel
  refine ⟨⟨rfl, ?_⟩, ⟨rfl, hset, ?_⟩, ⟨rfl, hopen, ?_⟩⟩
  · exact (isRuleEnabled_eq_enabled_applyLayered lockSettings (storedRule "kernel-types" true)
      [.kernel]).1 rfl
  · exact (isRuleEnabled_eq_enabled_applyLayered lockSettings (storedRule "kernel:locks" false)
      [.kernel, .universal]).2.1 rfl hset
  · exact (isRuleEnabled_eq_enabled_applyLayered lockSettings (storedRule "kernel" false)
      [.kernel]).2.2 rfl hopen

end Configuration

end Rulebook
