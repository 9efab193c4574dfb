/-
**What a configuration says about a rule.**

A configuration speaks of a rule in many places: in the state of a universal rule, in the lists, the
severities, the records and the switches of a section.  All of them become overrides in one long
list (`Rulebook.Configuration.overrides`).  Here the net effect of those that are for one rule and
one category is read off the places themselves, by looking up what stands there; the order of the
list is the order in which the places are joined, so that a later place hides an earlier one.

Main definitions:

* `Rulebook.RuleState.effect`, `Rulebook.RuleEntry.effect` — what a state and a record leave;
* `Rulebook.CategorySection.tells` — what a section says about a rule;
* `Rulebook.Configuration.tells` — what a configuration says about a rule for a category.

Main results:

* `Rulebook.CategorySection.netEffect_overrides` — the overrides of a section leave what it says;
* `Rulebook.Overrides.netEffect_get_ofConfiguration` — **the collection of a configuration leaves
  what the configuration says**, for every rule and every category.
-/

import Mathlib.Data.List.Basic
import Rulebook.Proofs.Override.Effect
import Rulebook.Proofs.Override.Group

set_option autoImplicit false

namespace Rulebook

open Override (netEffect NetEffect)

/-! ### The places of a section -/

/-- What a record leaves. -/
def RuleEntry.effect (e : RuleEntry) : NetEffect :=
  match e.action with
  | .disable => ⟨some false, none⟩
  | .enable => ⟨some true, none⟩
  | .changeSeverity => ⟨none, e.severity⟩

namespace CategorySection

/-- What it leaves to stand in a list of rules to put in force or out of force. -/
def listed (enabled : Bool) (ruleIds : List String) (ruleId : String) : NetEffect :=
  ⟨if ruleId ∈ ruleIds then some enabled else none, none⟩

/-- What the switches of a section leave. -/
def switched (c : Category) (s : CategorySection) (ruleId : String) : NetEffect :=
  netEffect ((s.flags.entries.filterMap (switched? c)).filter fun o =>
    decide (o.IsFor ruleId c))

/-- What a section says about a rule: its lists, severities, records and switches in turn. -/
def tells (c : Category) (s : CategorySection) (ruleId : String) : NetEffect :=
  ((((listed false s.disabledRules ruleId).followedBy
    (listed true s.enabledRules ruleId)).followedBy
    ⟨none, s.severity.get? ruleId⟩).followedBy
    ((s.rules.get? ruleId).elim .nothing RuleEntry.effect)).followedBy
    (switched c s ruleId)

/-- Overrides of the rules of a list, all with one action, leave the state of the action. -/
theorem netEffect_listed (enabled : Bool) {c : Category} {f : String → Override}
    (hfor : ∀ ruleId, (f ruleId).IsFor ruleId c)
    (haction : ∀ ruleId, NetEffect.nothing.after (f ruleId) = ⟨some enabled, none⟩)
    (ruleIds : List String) (ruleId : String) :
    netEffect ((ruleIds.map f).filter fun o => decide (o.IsFor ruleId c)) =
      listed enabled ruleIds ruleId := by
  induction ruleIds with
  | nil => rfl
  | cons first rest ih =>
      by_cases h : first = ruleId
      · subst h
        rw [List.map_cons, List.filter_cons_of_pos (by simpa using hfor first),
          Override.netEffect_cons, ih, haction]
        by_cases hrest : first ∈ rest <;> simp [listed, NetEffect.followedBy, hrest]
      · have hne : ¬ (f first).IsFor ruleId c := fun hf => h ((hfor first).1.symm.trans hf.1)
        have h' : ¬ ruleId = first := fun e => h e.symm
        rw [List.map_cons, List.filter_cons_of_neg (by simpa using hne), ih]
        simp [listed, h']

/-- Of the overrides that are made from the entries of a map one by one, those for a rule come from
what the map has under its id. -/
theorem filter_map_entries {α : Type} {c : Category} {f : String × α → Override}
    (hfor : ∀ entry, (f entry).IsFor entry.1 c) (m : SortedMap String α) (ruleId : String) :
    ((m.entries.map f).filter fun o => decide (o.IsFor ruleId c)) =
      (m.get? ruleId).elim [] fun value => [f (ruleId, value)] := by
  rw [List.map_eq_flatMap, List.filter_flatMap,
    m.flatMap_entries ruleId _ fun entry _ hne => ?_]
  · cases m.get? ruleId with
    | none => rfl
    | some value => simpa using hfor (ruleId, value)
  · have hnot : ¬ (f entry).IsFor ruleId c := fun h => hne ((hfor entry).1.symm.trans h.1)
    simpa using hnot

/-- **The overrides of a section leave what it says.** -/
theorem netEffect_overrides (c : Category) (s : CategorySection) (ruleId : String) :
    netEffect ((s.overrides c).filter fun o => decide (o.IsFor ruleId c)) = s.tells c ruleId := by
  simp only [overrides, List.filter_append, Override.netEffect_append]
  rw [netEffect_listed false (f := disabling c) (fun _ => ⟨rfl, rfl⟩) fun _ => rfl,
    netEffect_listed true (f := enabling c) (fun _ => ⟨rfl, rfl⟩) fun _ => rfl,
    filter_map_entries (f := grading c) fun _ => ⟨rfl, rfl⟩,
    filter_map_entries (f := recorded c) fun _ => ⟨rfl, rfl⟩]
  have hseverity : netEffect ((s.severity.get? ruleId).elim [] fun value =>
      [grading c (ruleId, value)]) = ⟨none, s.severity.get? ruleId⟩ := by
    cases s.severity.get? ruleId <;> rfl
  have hrecord : netEffect ((s.rules.get? ruleId).elim [] fun entry =>
      [recorded c (ruleId, entry)]) = (s.rules.get? ruleId).elim .nothing RuleEntry.effect := by
    cases s.rules.get? ruleId with
    | none => rfl
    | some entry =>
        obtain ⟨action, severity, reason⟩ := entry
        cases action <;> cases severity <;> rfl
  rw [hseverity, hrecord]
  rfl

/-- The overrides of a section are for its category, and are told to come from a section. -/
theorem origin_of_mem_overrides {c : Category} {s : CategorySection} {o : Override}
    (h : o ∈ s.overrides c) : o.category = c ∧ o.appliedBy = .category := by
  simp only [overrides, List.mem_append, List.mem_map, List.mem_filterMap] at h
  rcases h with (((⟨_, _, rfl⟩ | ⟨_, _, rfl⟩) | ⟨_, _, rfl⟩) | ⟨_, _, rfl⟩) | ⟨flag, _, hflag⟩
  · exact ⟨rfl, rfl⟩
  · exact ⟨rfl, rfl⟩
  · exact ⟨rfl, rfl⟩
  · exact ⟨rfl, rfl⟩
  · rw [switched?] at hflag
    split at hflag
    · obtain rfl := Option.some.inj hflag
      exact ⟨rfl, rfl⟩
    · exact nomatch hflag

/-- The section without adjustments says nothing. -/
@[simp] theorem tells_empty (c : Category) (ruleId : String) :
    empty.tells c ruleId = .nothing := rfl

end CategorySection

/-! ### Universal rules -/

/-- What a state leaves. -/
def RuleState.effect : RuleState → NetEffect
  | .enabled => .nothing
  | .warning => ⟨none, some .warning⟩
  | .disabled => ⟨some false, none⟩

namespace Fragment

/-- An id has a key among the universal rules exactly when it is the key with the scope before
it. -/
theorem universalKey?_eq_some_iff (ruleId key : String) :
    universalKey? ruleId = some key ↔ ruleId = Configuration.universalScope ++ key := by
  rw [universalKey?, Option.map_eq_some_iff]
  constructor
  · rintro ⟨rest, hrest, rfl⟩
    refine String.toList_inj.1 ?_
    rw [Text.eq_append_of_isPrefixOf? hrest, String.toList_append, String.toList_ofList]
  · rintro rfl
    refine ⟨key.toList, ?_, String.ofList_toList⟩
    rw [String.toList_append]
    rfl

end Fragment

namespace Configuration

/-- What the states of universal rules say about a rule for a category. -/
def stateTells (states : SortedMap String RuleState) (ruleId : String) (c : Category) : NetEffect :=
  if c = .universal then
    (Fragment.universalKey? ruleId).elim .nothing fun key =>
      (states.get? key).elim .nothing RuleState.effect
  else .nothing

/-- What the sections say about a rule for a category. -/
def sectionTells (sections : SortedMap Category CategorySection) (ruleId : String) (c : Category) :
    NetEffect :=
  (sections.get? c).elim .nothing fun s => s.tells c ruleId

/-- What a configuration says about a rule for a category: the state first, then the section. -/
def tells (config : Configuration) (ruleId : String) (c : Category) : NetEffect :=
  (stateTells config.universalRules ruleId c).followedBy (sectionTells config.sections ruleId c)

theorem isFor_of_stateOverride? {entry : String × RuleState} {o : Override}
    (h : stateOverride? entry = some o) : o.IsFor (universalScope ++ entry.1) .universal := by
  obtain ⟨key, state⟩ := entry
  cases state with
  | enabled => exact nomatch h
  | warning =>
      obtain rfl := Option.some.inj h
      exact ⟨rfl, rfl⟩
  | disabled =>
      obtain rfl := Option.some.inj h
      exact ⟨rfl, rfl⟩

theorem netEffect_stateOverride? (key : String) (state : RuleState) :
    netEffect (stateOverride? (key, state)).toList = state.effect := by
  cases state <;> rfl

/-- An override of a state is for the universal rule of its key and for nothing else. -/
theorem isFor_stateOverride?_iff {entry : String × RuleState} {o : Override}
    (h : stateOverride? entry = some o) (ruleId : String) (c : Category) :
    o.IsFor ruleId c ↔ Fragment.universalKey? ruleId = some entry.1 ∧ c = .universal := by
  obtain ⟨hid, hcategory⟩ := isFor_of_stateOverride? h
  rw [Fragment.universalKey?_eq_some_iff, Override.IsFor, hid, hcategory]
  constructor
  · rintro ⟨rfl, rfl⟩
    exact ⟨rfl, rfl⟩
  · rintro ⟨rfl, rfl⟩
    exact ⟨rfl, rfl⟩

theorem filter_stateOverride? (entry : String × RuleState) (ruleId : String) (c : Category) :
    ((stateOverride? entry).toList.filter fun o => decide (o.IsFor ruleId c)) =
      if Fragment.universalKey? ruleId = some entry.1 ∧ c = .universal then
        (stateOverride? entry).toList
      else [] := by
  split
  · rename_i hkey
    refine List.filter_eq_self.2 fun o ho => decide_eq_true ?_
    exact (isFor_stateOverride?_iff (Option.mem_toList.1 ho) ruleId c).2 hkey
  · rename_i hkey
    refine List.filter_eq_nil_iff.2 fun o ho hfor => hkey ?_
    rw [decide_eq_true_iff] at hfor
    exact (isFor_stateOverride?_iff (Option.mem_toList.1 ho) ruleId c).1 hfor

/-- The overrides of states that are for a rule come from the state under its key. -/
theorem filter_states (states : SortedMap String RuleState) (ruleId : String) (c : Category) :
    ((states.entries.filterMap stateOverride?).filter fun o => decide (o.IsFor ruleId c)) =
      if c = .universal then
        (Fragment.universalKey? ruleId).elim [] fun key =>
          (states.get? key).elim [] fun state => (stateOverride? (key, state)).toList
      else [] := by
  have hnone : states.entries.flatMap (fun _ => ([] : List Override)) = [] :=
    List.flatMap_eq_nil_iff.2 fun _ _ => rfl
  rw [List.filterMap_eq_flatMap_toList, List.filter_flatMap]
  simp only [filter_stateOverride?]
  by_cases hc : c = .universal
  · cases hkey : Fragment.universalKey? ruleId with
    | none => simp [hc, hnone]
    | some key =>
        rw [if_pos hc, Option.elim_some, states.flatMap_entries key _ fun entry _ hne => ?_]
        · simp [hc]
        · exact if_neg fun h => hne (Option.some.inj h.1).symm
  · simp [hc, hnone]

theorem netEffect_states (states : SortedMap String RuleState) (ruleId : String) (c : Category) :
    netEffect ((states.entries.filterMap stateOverride?).filter fun o =>
      decide (o.IsFor ruleId c)) = stateTells states ruleId c := by
  rw [filter_states, stateTells]
  split
  · cases Fragment.universalKey? ruleId with
    | none => rfl
    | some key =>
        rw [Option.elim_some, Option.elim_some]
        cases states.get? key with
        | none => rfl
        | some state => exact netEffect_stateOverride? key state
  · rfl

/-- The overrides of sections that are for a category come from its section. -/
theorem filter_sections (sections : SortedMap Category CategorySection) (ruleId : String)
    (c : Category) :
    ((sections.entries.flatMap fun entry => entry.2.overrides entry.1).filter fun o =>
      decide (o.IsFor ruleId c)) =
      (sections.get? c).elim [] fun s =>
        (s.overrides c).filter fun o => decide (o.IsFor ruleId c) := by
  rw [List.filter_flatMap, sections.flatMap_entries c _ fun entry _ hne => ?_]
  refine List.filter_eq_nil_iff.2 fun o ho => ?_
  rw [decide_eq_true_iff]
  intro hfor
  exact hne ((CategorySection.origin_of_mem_overrides ho).1.symm.trans hfor.2)

theorem netEffect_sections (sections : SortedMap Category CategorySection) (ruleId : String)
    (c : Category) :
    netEffect ((sections.entries.flatMap fun entry => entry.2.overrides entry.1).filter fun o =>
      decide (o.IsFor ruleId c)) = sectionTells sections ruleId c := by
  rw [filter_sections, sectionTells]
  cases sections.get? c with
  | none => rfl
  | some s => exact CategorySection.netEffect_overrides c s ruleId

end Configuration

/-- **The collection of a configuration leaves what the configuration says.** -/
theorem Overrides.netEffect_get_ofConfiguration (config : Configuration) (ruleId : String)
    (c : Category) :
    netEffect ((ofConfiguration config).get ruleId c) = config.tells ruleId c := by
  rw [get_ofConfiguration, Configuration.overrides, List.filter_append,
    Override.netEffect_append, Configuration.netEffect_states, Configuration.netEffect_sections,
    Configuration.tells]

end Rulebook
