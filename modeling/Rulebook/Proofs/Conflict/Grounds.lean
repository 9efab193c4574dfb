/-
**What decides in a report.**

If a scan has the overrides of a configuration layered on the rules, it drops the rules that the
configuration puts out of force before it looks for conflicts.  Settling a conflict asks the same
configuration again whether the rules are in force, in another way: the scan starts from the state
that is stored with a rule, and settling starts from "in force".  The second way is the more
generous one, because it agrees with the first on every override and differs at most in the state
before the first of them.  So both rules of a reported conflict are in force when it is settled,
and what the configuration puts out of force decides nothing that it has not decided before.

Main results:

* `Rulebook.Configuration.isRuleEnabled_of_enabled_applyLayered` — what is in force after the layers
  is so for the configuration;
* `Rulebook.Conflict.ruling?_of_enabled` — between rules in force scope decides, and then severity;
* `Rulebook.Conflict.scan_settles_in_force` — **in a report nothing else decides**.
-/

import Rulebook.Proofs.Conflict.Pairs
import Rulebook.Proofs.Override.InForce

set_option autoImplicit false

namespace Rulebook

/-! ### Rules in force -/

namespace Configuration

/-- **What is in force after the layers is so for the configuration**, whatever is stored. -/
theorem isRuleEnabled_of_enabled_applyLayered {config : Configuration} {rule : Rule}
    {categories : List Category}
    (h : ((Overrides.ofConfiguration config).applyLayered rule categories).enabled = true) :
    config.isRuleEnabled rule.id categories = true := by
  rw [Overrides.applyLayered_eq, Override.NetEffect.enabled_applyTo] at h
  rw [isRuleEnabled_eq]
  -- Only a state that the overrides set can be "out of force", and that state is the same.
  cases hstate : ((Overrides.ofConfiguration config).effect rule.id categories).enabled with
  | none => rfl
  | some state =>
      rw [hstate] at h
      exact h

/-- Settings that say nothing leave every rule in force. -/
theorem isRuleEnabled_standard (ruleId : String) (categories : List Category) :
    standard.isRuleEnabled ruleId categories = true := by
  have hnone : standard.overrides = [] := rfl
  have hlayers : (layers categories).flatMap (fun _ => ([] : List Override)) = [] :=
    List.flatMap_eq_nil_iff.mpr fun _ _ => rfl
  rw [isRuleEnabled, hnone]
  simp only [List.filter_nil, hlayers, List.foldl_nil]

end Configuration

namespace Conflict

/-- **Between rules in force scope decides, and then severity.** -/
theorem ruling?_of_enabled {config : Configuration} {categories : List Category} {a b : Rule}
    (ha : config.isRuleEnabled a.id categories = true)
    (hb : config.isRuleEnabled b.id categories = true) :
    ruling? config categories a b =
      ((specificSide? a b).map (·, .specificity)).or ((severeSide? a b).map (·, .severity)) := by
  rw [ruling?, enabledSide?, ha, hb]
  rfl

/-! ### The entries of a report -/

/-- The entries of a report are the conflicts of the rules in force, settled for the categories of
the scan. -/
theorem mem_entries_scan {registry : Registry} {config : Configuration} {os : Option Overrides}
    {asked : Option (List Category)} {entry : Entry} :
    entry ∈ (scan registry config os asked).entries ↔
      entry.conflict ∈ among (activeRules registry os (scanned config asked)) ∧
        entry.resolution = entry.conflict.resolve config (scanned config asked) := by
  rw [scan, settle, List.mem_map]
  constructor
  · rintro ⟨c, hc, rfl⟩
    exact ⟨hc, rfl⟩
  · rintro ⟨hc, hresolution⟩
    exact ⟨entry.conflict, hc, by rw [← hresolution]⟩

/-- A rule of a scan is a rule of the registry under the layers, and in force. -/
theorem exists_of_mem_activeRules {registry : Registry} {os : Overrides}
    {categories : List Category} {rule : Rule}
    (h : rule ∈ activeRules registry (some os) categories) :
    ∃ stored ∈ registry.rules, os.applyLayered stored categories = rule ∧ rule.enabled = true := by
  obtain ⟨hlayered, henabled⟩ := List.mem_filter.mp h
  obtain ⟨stored, hstored, rfl⟩ := List.mem_map.mp hlayered
  exact ⟨stored, (List.mem_filter.mp hstored).1, rfl, henabled⟩

theorem isRuleEnabled_of_mem_activeRules {registry : Registry} {config : Configuration}
    {categories : List Category} {rule : Rule}
    (h : rule ∈ activeRules registry (some (.ofConfiguration config)) categories) :
    config.isRuleEnabled rule.id categories = true := by
  obtain ⟨stored, -, rfl, henabled⟩ := exists_of_mem_activeRules h
  rw [Overrides.id_applyLayered]
  exact Configuration.isRuleEnabled_of_enabled_applyLayered henabled

/-- **In a report with the overrides of the configuration nothing but scope and severity decides.**
Both rules of a conflict are rules of the registry as the layers leave them, and in force for the
configuration; so the conflict is settled as it would be by settings that say nothing, by scope
and then by the severities that the overrides give. -/
theorem scan_settles_in_force (registry : Registry) (config : Configuration)
    (asked : Option (List Category)) {entry : Entry}
    (hentry : entry ∈ (scan registry config (some (.ofConfiguration config)) asked).entries) :
    let categories := scanned config asked
    let first := entry.conflict.first
    let second := entry.conflict.second
    (config.isRuleEnabled first.id categories = true ∧
      config.isRuleEnabled second.id categories = true) ∧
    entry.resolution = entry.conflict.resolve .standard categories ∧
    entry.resolution = resolutionOf first second
      (((specificSide? first second).map (·, .specificity)).or
        ((severeSide? first second).map (·, .severity))) ∧
    (∃ stored ∈ registry.rules,
      (Overrides.ofConfiguration config).applyLayered stored categories = first) ∧
    ∃ stored ∈ registry.rules,
      (Overrides.ofConfiguration config).applyLayered stored categories = second := by
  intro categories first second
  obtain ⟨hconflict, hresolution⟩ := mem_entries_scan.mp hentry
  obtain ⟨hpair, -, -⟩ := mem_among.mp hconflict
  have hfirst : first ∈ activeRules registry (some (.ofConfiguration config)) categories :=
    hpair.subset (by simp [first])
  have hsecond : second ∈ activeRules registry (some (.ofConfiguration config)) categories :=
    hpair.subset (by simp [second])
  have henabled := And.intro (isRuleEnabled_of_mem_activeRules hfirst)
    (isRuleEnabled_of_mem_activeRules hsecond)
  have hruling := ruling?_of_enabled henabled.1 henabled.2
  have hstandard : ruling? .standard categories first second = _ :=
    ruling?_of_enabled (Configuration.isRuleEnabled_standard first.id categories)
      (Configuration.isRuleEnabled_standard second.id categories)
  refine ⟨henabled, ?_, ?_, ?_, ?_⟩
  · rw [hresolution, resolve, resolve, hruling, hstandard]
  · rw [hresolution, resolve, hruling]
  · obtain ⟨stored, hstored, heq, -⟩ := exists_of_mem_activeRules hfirst
    exact ⟨stored, hstored, heq⟩
  · obtain ⟨stored, hstored, heq, -⟩ := exists_of_mem_activeRules hsecond
    exact ⟨stored, hstored, heq⟩

/-- Two rules about the heap, of which the first is stored as out of force. -/
def heapRules : List Rule :=
  let rule (id description : String) (severity : Severity) (enabled : Bool) : Rule :=
    ⟨id, id, description, "", [.kernel], severity, enabled, .none, none, none⟩
  [rule "kernel-memory-heap" "Forbid the heap." .error false,
    rule "kernel-memory-pools" "Allow pools on the heap." .warning true]

/-- The settings of a project whose universal category disables both rules and whose kernel category
enables them again and makes the first one a note. -/
def heapSettings : Configuration :=
  let ids := ["kernel-memory-heap", "kernel-memory-pools"]
  { Configuration.standard with
    categories := [.kernel, .kernel]
    sections := (SortedMap.empty.insert .kernel
      { CategorySection.empty with
        enabledRules := ids
        severity := SortedMap.empty.insert "kernel-memory-heap" .info }).insert .universal
      { CategorySection.empty with disabledRules := ids } }

/-- The two rules are in conflict, and the second one is used although it is stored as the less
severe one. -/
theorem heapRules_settled :
    ∃ entry ∈ (scan (.ofRules heapRules) heapSettings (some (.ofConfiguration heapSettings))
        none).entries,
      (heapSettings.isRuleEnabled entry.conflict.first.id [.kernel, .kernel, .universal] = true ∧
        heapSettings.isRuleEnabled entry.conflict.second.id
          [.kernel, .kernel, .universal] = true) ∧
      entry.resolution = entry.conflict.resolve .standard [.kernel, .kernel, .universal] ∧
      entry.resolution.appliedRule = some "kernel-memory-pools" := by
  have hreport : ∃ entry ∈ (scan (.ofRules heapRules) heapSettings
      (some (.ofConfiguration heapSettings)) none).entries,
      entry.resolution.appliedRule = some "kernel-memory-pools" := by
    decide +kernel
  obtain ⟨entry, hentry, happlied⟩ := hreport
  obtain ⟨henabled, hresolution, -⟩ :=
    scan_settles_in_force (.ofRules heapRules) heapSettings none hentry
  exact ⟨entry, hentry, henabled, hresolution, happlied⟩

end Conflict

end Rulebook
