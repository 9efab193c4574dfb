/-
**Where the net effect of a group is written.**

A part of a configuration can speak of a rule for a category in four places: in the state of a
universal rule, in the list of enabled rules, in the severities and in the records of the section.
When a collection is written, each of its groups puts its net effect into the places of its own rule
and category, and leaves all others alone; since every group has a key of its own, a place holds in
the end what one group has put there (`Rulebook.Overrides.places_fragment`).  And the overrides that
are derived for a rule and a category come from their places alone.

So reading back what is written of a collection gives each group as it follows from its places.
This is its normal form (`Rulebook.Override.normal`): what the net effect of the group is written
as, in place of what the group held.

Main definitions:

* `Rulebook.Places`, `Rulebook.Fragment.places` — where a part of a configuration speaks of a rule;
* `Rulebook.Fragment.toConfiguration` — a part as a configuration;
* `Rulebook.Override.normal` — the normal form of a group.

Main results:

* `Rulebook.Fragment.places_addGroup`, `Rulebook.Fragment.places_addGroup_of_ne` — what a group puts
  into its own places, and into others;
* `Rulebook.Override.netEffect_normal` — a group and its normal form have the same net effect;
* `Rulebook.Overrides.get_toConfiguration_fragment` — **reading back gives each group in its normal
  form**.
-/

import Rulebook.Proofs.Override.Saying

set_option autoImplicit false

namespace Rulebook

open Override (netEffect NetEffect)

/-! ### Places -/

/-- What the places of a configuration hold in which it can speak of one rule for one category. -/
structure Places where
  /-- The state of a universal rule, with its key. -/
  state : Option (String × RuleState)
  /-- The id, as often as it stands in the list of rules to put in force. -/
  listed : List String
  /-- The severity. -/
  severity : Option Severity
  /-- The record. -/
  entry : Option RuleEntry

namespace Places

/-- Places that hold nothing. -/
def bare : Places := ⟨none, [], none, none⟩

/-- The overrides that come from the places of a section. -/
def inSection (p : Places) (c : Category) (ruleId : String) : List Override :=
  p.listed.map (CategorySection.enabling c) ++
    ((p.severity.elim [] fun severity => [CategorySection.grading c (ruleId, severity)]) ++
      p.entry.elim [] fun entry => [CategorySection.recorded c (ruleId, entry)])

/-- The overrides that come from places. -/
def overrides (p : Places) (c : Category) (ruleId : String) : List Override :=
  (p.state.elim [] fun entry => (Configuration.stateOverride? entry).toList) ++
    p.inSection c ruleId

end Places

/-- The overrides of a section for a rule, if it has no disabled rules and no switches. -/
theorem CategorySection.filter_overrides_of_plain {s : CategorySection}
    (h : s.disabledRules = [] ∧ s.flags = .empty) (c : Category) (ruleId : String) :
    ((s.overrides c).filter fun o => decide (o.IsFor ruleId c)) =
      Places.inSection ⟨none, s.enabledRules.filter (· = ruleId), s.severity.get? ruleId,
        s.rules.get? ruleId⟩ c ruleId := by
  have hlisted : ((s.enabledRules.map (enabling c)).filter fun o => decide (o.IsFor ruleId c)) =
      (s.enabledRules.filter (· = ruleId)).map (enabling c) := by
    rw [List.filter_map]
    refine congrArg _ (List.filter_congr fun id _ => ?_)
    simp [Override.IsFor, enabling]
  rw [CategorySection.overrides, h.1, h.2]
  simp only [List.filter_append, hlisted]
  rw [filter_map_entries (f := grading c) fun _ => ⟨rfl, rfl⟩,
    filter_map_entries (f := recorded c) fun _ => ⟨rfl, rfl⟩]
  simp [Places.inSection, SortedMap.empty]

/-! ### Parts of a configuration -/

namespace CategorySection

theorem eq_empty_of_isEmpty {s : CategorySection} (h : s.isEmpty = true) : s = .empty := by
  obtain ⟨disabled, enabled, severity, rules, flags⟩ := s
  simp only [isEmpty, Bool.and_eq_true, List.isEmpty_iff, SortedMap.isEmpty_iff] at h
  obtain ⟨⟨⟨⟨rfl, rfl⟩, rfl⟩, rfl⟩, rfl⟩ := h
  rfl

end CategorySection

namespace Fragment

/-- The configuration that is standard but for a part. -/
def toConfiguration (f : Fragment) : Configuration :=
  { Configuration.standard with universalRules := f.universalRules, sections := f.sections }

/-- Every section is as the writing of a collection leaves it: no list of disabled rules, and no
switches. -/
def Plain (f : Fragment) : Prop :=
  ∀ c, (f.sectionOf c).disabledRules = [] ∧ (f.sectionOf c).flags = .empty

theorem plain_empty : empty.Plain := fun _ => ⟨rfl, rfl⟩

/-- The key under which the state of a rule is written for a category, if it is. -/
def stateKey? (ruleId : String) (c : Category) : Option String :=
  if c = .universal then universalKey? ruleId else none

theorem stateKey?_eq_some_iff {ruleId key : String} {c : Category} :
    stateKey? ruleId c = some key ↔
      c = .universal ∧ ruleId = Configuration.universalScope ++ key := by
  rw [stateKey?]
  split
  · rename_i hc
    simp [hc, universalKey?_eq_some_iff]
  · rename_i hc
    simp [hc]

/-- What the places of a part hold for a rule and a category. -/
def places (f : Fragment) (ruleId : String) (c : Category) : Places where
  state := (stateKey? ruleId c).bind fun key => (f.universalRules.get? key).map fun s => (key, s)
  listed := (f.sectionOf c).enabledRules.filter (· = ruleId)
  severity := (f.sectionOf c).severity.get? ruleId
  entry := (f.sectionOf c).rules.get? ruleId

theorem places_empty (ruleId : String) (c : Category) : empty.places ruleId c = .bare := by
  rw [places]
  cases stateKey? ruleId c <;> rfl

/-- **The overrides of a part for a rule and a category come from their places.** -/
theorem get_toConfiguration {f : Fragment} (h : f.Plain) (ruleId : String) (c : Category) :
    (Overrides.ofConfiguration f.toConfiguration).get ruleId c =
      (f.places ruleId c).overrides c ruleId := by
  have hstate : (if c = .universal then
        (universalKey? ruleId).elim [] fun key =>
          (f.universalRules.get? key).elim [] fun state =>
            (Configuration.stateOverride? (key, state)).toList
      else []) =
      (f.places ruleId c).state.elim [] fun entry =>
        (Configuration.stateOverride? entry).toList := by
    rw [places, stateKey?]
    split
    · cases universalKey? ruleId with
      | none => rfl
      | some key => cases hget : f.universalRules.get? key <;> simp [hget]
    · rfl
  have hsection : ((f.sections.get? c).elim [] fun s =>
      (s.overrides c).filter fun o => decide (o.IsFor ruleId c)) =
        ((f.sectionOf c).overrides c).filter fun o => decide (o.IsFor ruleId c) := by
    rw [sectionOf]
    cases f.sections.get? c <;> rfl
  rw [Overrides.get_ofConfiguration, Configuration.overrides, List.filter_append,
    Configuration.filter_states, Configuration.filter_sections, Places.overrides, ← hstate]
  refine congrArg _ (hsection.trans ?_)
  exact CategorySection.filter_overrides_of_plain (h c) c ruleId

end Fragment

/-! ### What is written down for a group -/

namespace Fragment

section Sections

variable (ruleId other reason : String) (e : NetEffect) (s : CategorySection)

/-- Beside the state of a universal rule only the list of enabled rules and the severities
change. -/
theorem supplement_eq : supplement ruleId e s =
    { s with
      enabledRules := s.enabledRules ++ if e.enabled = some true then [ruleId] else []
      severity := if stateOf e = .warning then s.severity
        else e.severity.elim s.severity (s.severity.insert ruleId) } := by
  obtain ⟨enabled, severity⟩ := e
  rcases enabled with _ | _ | _ <;> rcases severity with _ | _ | _ | _ <;>
    simp [supplement, stateOf]

theorem supplement_severity : (supplement ruleId e s).severity.get? other =
    if other = ruleId ∧ stateOf e ≠ .warning then e.severity.or (s.severity.get? other)
    else s.severity.get? other := by
  rw [supplement_eq]
  by_cases hstate : stateOf e = .warning
  · simp [hstate]
  · cases e.severity with
    | none => simp [hstate]
    | some severity =>
        by_cases hother : other = ruleId <;> simp [hstate, hother, SortedMap.get?_insert]

/-- The record that is written for a net effect, if one is. -/
def entryOf? : Option RuleEntry :=
  match e.enabled, e.severity with
  | none, none => none
  | none, some severity => some ⟨.changeSeverity, some severity, some reason⟩
  | some enabled, _ => some ⟨if enabled then .enable else .disable, none, some reason⟩

/-- For any other rule only the severities and the records change. -/
theorem record_rest : (record ruleId reason e s).disabledRules = s.disabledRules ∧
    (record ruleId reason e s).enabledRules = s.enabledRules ∧
    (record ruleId reason e s).flags = s.flags := by
  obtain ⟨enabled, severity⟩ := e
  cases enabled <;> cases severity <;> exact ⟨rfl, rfl, rfl⟩

theorem record_rules : (record ruleId reason e s).rules.get? other =
    if other = ruleId then (entryOf? reason e).or (s.rules.get? other)
    else s.rules.get? other := by
  obtain ⟨enabled, severity⟩ := e
  cases enabled <;> cases severity <;> by_cases h : other = ruleId <;>
    simp [record, entryOf?, SortedMap.get?_insert, h]

theorem record_severity : (record ruleId reason e s).severity.get? other =
    if other = ruleId ∧ e.enabled.isSome then e.severity.or (s.severity.get? other)
    else s.severity.get? other := by
  obtain ⟨enabled, severity⟩ := e
  cases enabled <;> cases severity <;> by_cases h : other = ruleId <;>
    simp [record, SortedMap.get?_insert, h]

end Sections

variable {f : Fragment} {c : Category} {key ruleId other : String} {e : NetEffect}

theorem sectionOf_addUniversal (f : Fragment) (key ruleId : String) (e : NetEffect)
    (c : Category) :
    (f.addUniversal key ruleId e).sectionOf c =
      if c = .universal then supplement ruleId e (f.sectionOf .universal) else f.sectionOf c := by
  rw [sectionOf, addUniversal]
  dsimp only
  split
  · rename_i hempty
    rw [SortedMap.get?_erase]
    split
    · exact (CategorySection.eq_empty_of_isEmpty hempty).symm
    · rfl
  · rw [SortedMap.get?_insert]
    split <;> rfl

theorem sectionOf_addRecord (f : Fragment) (last : Override) (e : NetEffect) (c : Category) :
    (f.addRecord last e).sectionOf c =
      if c = last.category then record last.ruleId last.reason e (f.sectionOf last.category)
      else f.sectionOf c := by
  rw [sectionOf, addRecord, SortedMap.get?_insert]
  split <;> rfl

theorem Plain.addUniversal (h : f.Plain) : (f.addUniversal key ruleId e).Plain := by
  intro c
  rw [sectionOf_addUniversal]
  split
  · rw [supplement_eq]
    exact h .universal
  · exact h c

theorem Plain.addRecord {last : Override} (h : f.Plain) : (f.addRecord last e).Plain := by
  intro c
  rw [sectionOf_addRecord]
  split
  · rw [(record_rest ..).1, (record_rest ..).2.2]
    exact h last.category
  · exact h c

theorem Plain.addGroup {group : List Override} (h : f.Plain) : (f.addGroup group).Plain := by
  rw [Fragment.addGroup]
  split
  · exact h
  · dsimp only
    split
    · exact h.addUniversal
    · exact h.addRecord

/-! ### What a group puts into its places -/

/-- What a net effect puts into the places of the rule and the category of an override; where it
becomes a record, with the reason of the override. -/
def placesFor (last : Override) (e : NetEffect) : Places :=
  match stateKey? last.ruleId last.category with
  | some key =>
    ⟨some (key, stateOf e), if e.enabled = some true then [last.ruleId] else [],
      if stateOf e = .warning then none else e.severity, none⟩
  | none => ⟨none, [], if e.enabled.isSome then e.severity else none, entryOf? last.reason e⟩

variable {group : List Override} {last : Override}

theorem addGroup_of_getLast? (hlast : group.getLast? = some last) (f : Fragment) :
    f.addGroup group = match stateKey? last.ruleId last.category with
      | some key => f.addUniversal key last.ruleId (netEffect group)
      | none => f.addRecord last (netEffect group) := by
  rw [addGroup, hlast]
  rfl

/-- A group puts its net effect into its own places. -/
theorem places_addGroup (hlast : group.getLast? = some last)
    (hf : f.places last.ruleId last.category = .bare) :
    (f.addGroup group).places last.ruleId last.category = placesFor last (netEffect group) := by
  rw [places, Places.bare, Places.mk.injEq] at hf
  obtain ⟨-, hlisted, hseverity, hentry⟩ := hf
  rw [addGroup_of_getLast? hlast, placesFor, places]
  cases hkey : stateKey? last.ruleId last.category with
  | some key =>
      dsimp only
      have hc := (stateKey?_eq_some_iff.mp hkey).1
      rw [hc] at hlisted hseverity hentry ⊢
      have hstate : (f.addUniversal key last.ruleId (netEffect group)).universalRules.get? key =
          some (stateOf (netEffect group)) := by
        rw [addUniversal, SortedMap.get?_insert, if_pos rfl]
      rw [sectionOf_addUniversal, if_pos rfl, supplement_severity, hseverity, supplement_eq,
        Option.bind_some, hstate]
      dsimp only
      rw [hentry, List.filter_append, hlisted]
      by_cases henabled : (netEffect group).enabled = some true <;>
        by_cases hwarning : stateOf (netEffect group) = .warning <;> simp [henabled, hwarning]
  | none =>
      dsimp only
      rw [sectionOf_addRecord, if_pos rfl, record_severity, record_rules, (record_rest ..).2.1,
        hlisted, hseverity, hentry]
      simp

/-- What is written for a universal rule leaves the places of every other rule and category. -/
theorem places_addUniversal_of_ne (hstate : stateKey? other c ≠ some key)
    (hne : ¬ (other = ruleId ∧ c = .universal)) :
    (f.addUniversal key ruleId e).places other c = f.places other c := by
  have hstates : ((stateKey? other c).bind fun key' =>
      ((f.addUniversal key ruleId e).universalRules.get? key').map fun s => (key', s)) =
        (stateKey? other c).bind fun key' =>
          (f.universalRules.get? key').map fun s => (key', s) := by
    cases hkey : stateKey? other c with
    | none => rfl
    | some key' =>
        have hkeys : key' ≠ key := fun h => hstate (hkey.trans (congrArg some h))
        rw [Option.bind_some, Option.bind_some, addUniversal, SortedMap.get?_insert, if_neg hkeys]
  rw [places, places, hstates, sectionOf_addUniversal]
  split
  · rename_i hc
    subst hc
    have hother : other ≠ ruleId := fun ho => hne ⟨ho, rfl⟩
    have hlisted : (if e.enabled = some true then [ruleId] else []).filter (· = other) = [] := by
      split <;> simp [Ne.symm hother]
    rw [supplement_severity, if_neg fun h => hother h.1, supplement_eq]
    dsimp only
    rw [List.filter_append, hlisted, List.append_nil]
  · rfl

/-- What is written for any other rule leaves the places of every other rule and category. -/
theorem places_addRecord_of_ne (hne : ¬ last.IsFor other c) :
    (f.addRecord last e).places other c = f.places other c := by
  rw [places, places, sectionOf_addRecord]
  split
  · rename_i hc
    subst hc
    have hother : other ≠ last.ruleId := fun ho => hne ⟨ho.symm, rfl⟩
    rw [record_severity, if_neg fun h => hother h.1, record_rules, if_neg hother,
      (record_rest ..).2.1]
    rfl
  · rfl

/-- A group puts nothing into the places of another rule or category. -/
theorem places_addGroup_of_ne (hne : ∀ o ∈ group, ¬ o.IsFor ruleId c) :
    (f.addGroup group).places ruleId c = f.places ruleId c := by
  cases hlast : group.getLast? with
  | none => rw [addGroup, hlast]
  | some last =>
      have hother := hne last (List.mem_of_getLast? hlast)
      rw [addGroup_of_getLast? hlast]
      cases hkey : stateKey? last.ruleId last.category with
      | some key =>
          obtain ⟨hcategory, hid⟩ := stateKey?_eq_some_iff.mp hkey
          refine places_addUniversal_of_ne (fun hsame => ?_) fun hfor => ?_
          · obtain ⟨rfl, rfl⟩ := stateKey?_eq_some_iff.mp hsame
            exact hother ⟨hid, hcategory⟩
          · exact hother ⟨hfor.1.symm, hcategory.trans hfor.2.symm⟩
      | none => exact places_addRecord_of_ne hother

/-! ### Writing all groups -/

theorem Plain.foldl_addGroup (h : f.Plain) (groups : List (List Override)) :
    (groups.foldl Fragment.addGroup f).Plain := by
  induction groups generalizing f with
  | nil => exact h
  | cons group rest ih => exact ih h.addGroup

theorem places_foldl_addGroup (groups : List (List Override))
    (hne : ∀ group ∈ groups, ∀ o ∈ group, ¬ o.IsFor ruleId c) (f : Fragment) :
    (groups.foldl addGroup f).places ruleId c = f.places ruleId c := by
  induction groups generalizing f with
  | nil => rfl
  | cons group rest ih =>
      rw [List.foldl_cons, ih fun other hother => hne other (List.mem_cons_of_mem _ hother),
        places_addGroup_of_ne (hne group List.mem_cons_self)]

end Fragment

namespace Overrides

variable {os : Overrides}

theorem plain_fragment (os : Overrides) : os.fragment.Plain :=
  Fragment.plain_empty.foldl_addGroup _

/-- **The places of a rule and a category hold what their group has put there.** -/
theorem places_fragment (h : os.WellKept) (ruleId : String) (c : Category) :
    os.fragment.places ruleId c = (os.get ruleId c).getLast?.elim .bare fun last =>
      Fragment.placesFor last (netEffect (os.get ruleId c)) := by
  have hother (entries : List (String × List Override))
      (hsub : ∀ entry ∈ entries, entry ∈ os.groups.entries)
      (hkeys : ∀ entry ∈ entries, entry.1 ≠ Override.keyOf ruleId c) :
      ∀ group ∈ entries.map Prod.snd, ∀ o ∈ group, ¬ o.IsFor ruleId c := by
    intro group hgroup o ho hfor
    obtain ⟨entry, hentry, rfl⟩ := List.mem_map.mp hgroup
    have hkey := (h _ _ ((os.groups.mem_entries_iff _ _).mp (hsub entry hentry))).2 o ho
    exact hkeys entry hentry (hkey.symm.trans ((o.key_eq_iff ruleId c).mpr hfor))
  rw [fragment, SortedMap.values]
  cases hlast : (os.get ruleId c).getLast? with
  | none =>
      have hget := h.get?_groups ruleId c
      rw [if_pos (List.getLast?_eq_none_iff.mp hlast)] at hget
      rw [Fragment.places_foldl_addGroup _ (hother _ (fun _ hentry => hentry) ?_),
        Fragment.places_empty, Option.elim_none]
      intro entry hentry hkey
      have hsome := (os.groups.mem_entries_iff entry.1 entry.2).mp hentry
      rw [hkey, hget] at hsome
      cases hsome
  | some last =>
      have hmem := List.mem_of_getLast? hlast
      obtain ⟨rfl, rfl⟩ := h.isFor_of_mem_get hmem
      have hget := h.get?_groups last.ruleId last.category
      rw [if_neg (List.ne_nil_of_mem hmem)] at hget
      -- the group of the rule and the category, between groups for others
      obtain ⟨before, after, hsplit, hbefore, hafter⟩ := SortedMap.exists_split_of_get? hget
      rw [hsplit, List.map_append, List.map_cons, List.foldl_append, List.foldl_cons,
        Fragment.places_foldl_addGroup _ (hother after (by simp +contextual [hsplit]) hafter),
        Option.elim_some]
      refine Fragment.places_addGroup hlast ?_
      rw [Fragment.places_foldl_addGroup _ (hother before (by simp +contextual [hsplit]) hbefore),
        Fragment.places_empty]

end Overrides

/-! ### The normal form of a group -/

namespace Override

open Fragment (placesFor stateKey? stateOf)

/-- The overrides that come from what a net effect puts into the places of an override. -/
def derived (last : Override) (e : NetEffect) : List Override :=
  (placesFor last e).overrides last.category last.ruleId

/-- The overrides that come from what a group puts into its places. -/
def normal (group : List Override) : List Override :=
  group.getLast?.elim [] fun last => derived last (netEffect group)

/-- What comes from the places of a net effect leaves this effect. -/
theorem netEffect_derived (last : Override) (e : NetEffect) : netEffect (derived last e) = e := by
  obtain ⟨enabled, severity⟩ := e
  rw [derived, placesFor]
  cases stateKey? last.ruleId last.category <;> rcases enabled with _ | _ | _ <;>
    rcases severity with _ | _ | _ | _ <;> rfl

/-- **A group and its normal form have the same net effect.** -/
theorem netEffect_normal (group : List Override) : netEffect (normal group) = netEffect group := by
  rw [normal]
  cases hlast : group.getLast? with
  | none => rw [List.getLast?_eq_none_iff.mp hlast, Option.elim_none]
  | some last => exact netEffect_derived last (netEffect group)

end Override

/-- **Reading back what is written of a collection gives each group in its normal form.** -/
theorem Overrides.get_toConfiguration_fragment {os : Overrides} (h : os.WellKept) (ruleId : String)
    (c : Category) :
    (ofConfiguration os.fragment.toConfiguration).get ruleId c =
      Override.normal (os.get ruleId c) := by
  rw [Fragment.get_toConfiguration os.plain_fragment, places_fragment h, Override.normal]
  cases hlast : (os.get ruleId c).getLast? with
  | none => rfl
  | some last =>
      obtain ⟨rfl, rfl⟩ := h.isFor_of_mem_get (List.mem_of_getLast? hlast)
      rfl

end Rulebook
