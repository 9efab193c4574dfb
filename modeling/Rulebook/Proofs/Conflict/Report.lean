/-
**What a report tells.**

A scan asks the registry for the rules of some categories, puts the layers of the overrides on them,
drops those that are out of force, and looks at what is left pair by pair.  None of these stages
changes the order of the rules or an id, so all of them can be moved past the pairing: the report
tells of the pairs of the registry itself, in their order, of which both rules take part in the
scan and some check applies.  The ids of a registry are distinct, so no pair is told of twice.

Main definitions:

* `Rulebook.Conflict.orderedPairs` — the pairs of a list, in the order of their places;
* `Rulebook.Conflict.takesPart`, `Rulebook.Conflict.scannedPairs` — the rules that take part in a
  scan, and their pairs;
* `Rulebook.Conflict.Report.conflicts`, `Rulebook.Conflict.Report.IsExact` — the conflicts that a
  report tells of, and what they should be.

Main results:

* `Rulebook.Conflict.among_eq` — the conflicts of a list of rules, pair by pair;
* `Rulebook.Conflict.first_check_of_classify` — the kind of a conflict is that of the first check
  that applies;
* `Rulebook.Conflict.scan_isExact` — **the report of a scan is exact**.
-/

import Mathlib.Data.List.Sym
import Rulebook.Proofs.Conflict.Pairs
import Rulebook.Proofs.Registry.Reachable

set_option autoImplicit false

namespace Rulebook.Conflict

/-! ### Pairs in order -/

/-- The pairs of a list, the earlier element first: those of the first element with all that come
after it, and then those of the rest. -/
def orderedPairs {α : Type} : List α → List (α × α)
  | [] => []
  | a :: rest => rest.map (a, ·) ++ orderedPairs rest

section

variable {α β : Type}

theorem mem_orderedPairs {l : List α} {a b : α} :
    (a, b) ∈ orderedPairs l ↔ [a, b].Sublist l := by
  induction l with
  | nil => simp [orderedPairs]
  | cons x rest ih =>
      rw [orderedPairs, List.mem_append, ih, pair_sublist_cons]
      simp [eq_comm, and_comm]

theorem orderedPairs_map (f : α → β) (l : List α) :
    orderedPairs (l.map f) = (orderedPairs l).map (Prod.map f f) := by
  induction l with
  | nil => rfl
  | cons x rest ih => simp [orderedPairs, ih, Function.comp_def]

theorem orderedPairs_filter (p : α → Bool) (l : List α) :
    orderedPairs (l.filter p) = (orderedPairs l).filter fun pair => p pair.1 && p pair.2 := by
  induction l with
  | nil => rfl
  | cons x rest ih =>
      rw [orderedPairs, List.filter_append, List.filter_map, ← ih, List.filter_cons]
      by_cases hx : p x = true
      · simp [orderedPairs, hx, Function.comp_def]
      · simp [hx, Function.comp_def]

/-- The pairs without their order are among all unordered pairs, each at most as often. -/
theorem map_orderedPairs_sublist_sym2 (l : List α) :
    ((orderedPairs l).map fun pair => s(pair.1, pair.2)).Sublist l.sym2 := by
  induction l with
  | nil => exact List.Sublist.slnil
  | cons x rest ih =>
      rw [orderedPairs, List.map_append, List.map_map, List.sym2, List.map_cons]
      exact (List.sublist_cons_self _ _).append ih

/-- Where a function that keeps something of its argument is defined, what it keeps is found in the
same order. -/
theorem map_filterMap_sublist {γ : Type} {f : α → Option β} {g : β → γ} {h : α → γ} {l : List α}
    (hkeep : ∀ a ∈ l, ∀ b, f a = some b → g b = h a) :
    ((l.filterMap f).map g).Sublist (l.map h) := by
  induction l with
  | nil => exact List.Sublist.slnil
  | cons a rest ih =>
      have hrest := ih fun a ha => hkeep a (List.mem_cons_of_mem _ ha)
      rw [List.filterMap_cons, List.map_cons]
      split
      · exact hrest.cons (h a)
      · rename_i b hb
        rw [List.map_cons, hkeep a List.mem_cons_self b hb]
        exact hrest.cons_cons (h a)

end

/-! ### The conflicts of a list -/

/-- The conflicts of a list of rules, pair by pair. -/
theorem among_eq (rules : List Rule) :
    among rules =
      ((orderedPairs rules).filter fun pair => pair.1.id != pair.2.id).filterMap fun pair =>
        classify pair.1 pair.2 := by
  induction rules with
  | nil => rfl
  | cons a rest ih =>
      rw [among, ih, orderedPairs, List.filter_append, List.filterMap_append, List.filter_map,
        List.filterMap_map]
      rfl

/-- If the ids are distinct, no pair is passed over. -/
theorem among_eq_of_nodup {rules : List Rule} (hnodup : (rules.map Rule.id).Nodup) :
    among rules = (orderedPairs rules).filterMap fun pair => classify pair.1 pair.2 := by
  have hdistinct : ∀ pair ∈ orderedPairs rules, (pair.1.id != pair.2.id) = true := by
    rintro ⟨a, b⟩ hpair
    have hids : [a.id, b.id].Sublist (rules.map Rule.id) := (mem_orderedPairs.mp hpair).map Rule.id
    simpa using hids.nodup hnodup
  rw [among_eq, List.filter_eq_self.mpr hdistinct]

/-- **The kind of a conflict is that of the first check that applies.** -/
theorem first_check_of_classify {a b : Rule} {c : Conflict} (h : classify a b = some c) :
    ∃ before check after, checks = before ++ check :: after ∧ check a b = some c ∧
      (∀ earlier ∈ before, earlier a b = none) ∧ Kind.all[before.length]? = some c.kind := by
  obtain ⟨before, check, after, hchecks, hcheck, hbefore⟩ := List.findSome?_eq_some_iff.mp h
  refine ⟨before, check, after, hchecks, hcheck, hbefore, ?_⟩
  have hplace : checks[before.length]? = some check := by
    rw [hchecks]
    simp
  generalize before.length = i at hplace
  match i with
  | 0 =>
      obtain rfl := Option.some.inj hplace
      rw [(rules_of_direct? hcheck).1]
      rfl
  | 1 =>
      obtain rfl := Option.some.inj hplace
      rw [(rules_of_implicit? hcheck).1]
      rfl
  | 2 =>
      obtain rfl := Option.some.inj hplace
      rw [(rules_of_precedence? hcheck).1]
      rfl
  | 3 =>
      obtain rfl := Option.some.inj hplace
      rw [(rules_of_scope? hcheck).1]
      rfl
  | _ + 4 => cases hplace

/-! ### The conflicts of a report -/

/-- The conflicts that a report tells of. -/
def Report.conflicts (report : Report) : List Conflict := report.entries.map fun e => e.conflict

/-- Whether a rule takes part in a scan of some categories: it is universal or for one of them, and
in force after the layers of the overrides. -/
def takesPart (overrides : Option Overrides) (categories : List Category) (rule : Rule) : Bool :=
  (rule.isUniversal || categories.any rule.hasCategory) &&
    (adjusted overrides categories rule).enabled

/-- The pairs of rules that take part in a scan, in order, each rule as the layers leave it. -/
def scannedPairs (rules : List Rule) (overrides : Option Overrides) (categories : List Category) :
    List (Rule × Rule) :=
  ((orderedPairs rules).filter fun pair =>
    takesPart overrides categories pair.1 && takesPart overrides categories pair.2).map
      (Prod.map (adjusted overrides categories) (adjusted overrides categories))

@[simp] theorem id_adjusted (overrides : Option Overrides) (categories : List Category)
    (rule : Rule) : (adjusted overrides categories rule).id = rule.id := by
  cases overrides with
  | none => rfl
  | some os => exact os.id_applyLayered rule categories

theorem mem_scannedPairs {rules : List Rule} {overrides : Option Overrides}
    {categories : List Category} {a b : Rule}
    (h : (a, b) ∈ scannedPairs rules overrides categories) :
    [a.id, b.id].Sublist (rules.map Rule.id) := by
  obtain ⟨⟨r, s⟩, hpair, heq⟩ := List.mem_map.mp h
  obtain ⟨rfl, rfl⟩ := Prod.mk.inj heq
  rw [id_adjusted, id_adjusted]
  exact (mem_orderedPairs.mp (List.mem_filter.mp hpair).1).map Rule.id

/-- The ids of the pairs of a scan, without their order, are found among the unordered pairs of the
ids of all rules. -/
theorem ids_scannedPairs_sublist_sym2 (rules : List Rule) (overrides : Option Overrides)
    (categories : List Category) :
    ((scannedPairs rules overrides categories).map fun pair => s(pair.1.id, pair.2.id)).Sublist
      (rules.map Rule.id).sym2 := by
  have hall : ((orderedPairs rules).map fun pair => s(pair.1.id, pair.2.id)).Sublist
      (rules.map Rule.id).sym2 := by
    have hsym := map_orderedPairs_sublist_sym2 (rules.map Rule.id)
    rwa [orderedPairs_map, List.map_map] at hsym
  have hscanned : ((scannedPairs rules overrides categories).map fun pair =>
      s(pair.1.id, pair.2.id)) =
        ((orderedPairs rules).filter fun pair => takesPart overrides categories pair.1 &&
          takesPart overrides categories pair.2).map fun pair => s(pair.1.id, pair.2.id) := by
    simp [scannedPairs, Function.comp_def]
  rw [hscanned]
  exact (List.filter_sublist.map _).trans hall

theorem universal_mem_scanned (config : Configuration) (asked : Option (List Category)) :
    .universal ∈ scanned config asked := by
  simp only [scanned]
  split
  · rename_i h
    exact List.contains_iff_mem.mp h
  · simp

/-- The rules of a scan are those that take part, as the layers leave them. -/
theorem activeRules_eq (registry : Registry) (config : Configuration)
    (overrides : Option Overrides) (asked : Option (List Category)) :
    activeRules registry overrides (scanned config asked) =
      (registry.rules.filter (takesPart overrides (scanned config asked))).map
        (adjusted overrides (scanned config asked)) := by
  have huniversal (rule : Rule) (h : rule.isUniversal = true) :
      (scanned config asked).any rule.hasCategory = true :=
    List.any_eq_true.mpr ⟨.universal, universal_mem_scanned config asked, h⟩
  rw [activeRules, Registry.query, List.filter_map, List.filter_filter]
  congr 1
  refine List.filter_congr fun rule _ => ?_
  by_cases h : rule.isUniversal = true
  · simp [takesPart, h, huniversal rule h]
  · simp [takesPart, h, Bool.and_comm]

/-- The conflicts of a report are those of the pairs of the scan. -/
theorem conflicts_scan {registry : Registry} (hregistry : registry.Reachable)
    (config : Configuration) (overrides : Option Overrides) (asked : Option (List Category)) :
    (scan registry config overrides asked).conflicts =
      (scannedPairs registry.rules overrides (scanned config asked)).filterMap fun pair =>
        classify pair.1 pair.2 := by
  have hsettle : (scan registry config overrides asked).conflicts =
      among (activeRules registry overrides (scanned config asked)) := by
    simp [Report.conflicts, scan, settle, Function.comp_def]
  -- The layers keep the ids, so those of the rules that are scanned are distinct too.
  have hnodup : ((activeRules registry overrides (scanned config asked)).map Rule.id).Nodup := by
    have hids : (activeRules registry overrides (scanned config asked)).map Rule.id =
        (registry.rules.filter (takesPart overrides (scanned config asked))).map Rule.id := by
      simp [activeRules_eq, Function.comp_def]
    rw [hids]
    exact (List.filter_sublist.map Rule.id).nodup hregistry.nodup_ids
  rw [hsettle, among_eq_of_nodup hnodup, activeRules_eq, orderedPairs_map, orderedPairs_filter]
  rfl

/-- A report is exact for a registry, perhaps with overrides, and some categories: it tells of the
conflicts of the pairs that are scanned, in their order, of no two ids twice and of none alone; the
rule that comes first does so in the registry; and the kind is that of the first check that
applies. -/
structure Report.IsExact (report : Report) (registry : Registry) (overrides : Option Overrides)
    (categories : List Category) : Prop where
  conflicts_eq : report.conflicts =
    (scannedPairs registry.rules overrides categories).filterMap fun pair =>
      classify pair.1 pair.2
  nodup_ids : (report.conflicts.map fun c => s(c.first.id, c.second.id)).Nodup
  id_ne : ∀ c ∈ report.conflicts, c.first.id ≠ c.second.id
  ids_sublist : ∀ c ∈ report.conflicts, [c.first.id, c.second.id].Sublist registry.ids
  kind_eq : ∀ c ∈ report.conflicts, ∃ before check after, checks = before ++ check :: after ∧
    check c.first c.second = some c ∧ (∀ earlier ∈ before, earlier c.first c.second = none) ∧
    Kind.all[before.length]? = some c.kind

/-- **The report of a scan is exact**, whatever the registry, the settings, the overrides and the
categories asked for. -/
theorem scan_isExact {registry : Registry} (hregistry : registry.Reachable)
    (config : Configuration) (overrides : Option Overrides) (asked : Option (List Category)) :
    (scan registry config overrides asked).IsExact registry overrides (scanned config asked) := by
  have hconflicts := conflicts_scan hregistry config overrides asked
  have hpair : ∀ c ∈ (scan registry config overrides asked).conflicts,
      [c.first.id, c.second.id].Sublist registry.ids ∧ classify c.first c.second = some c := by
    intro c hc
    rw [hconflicts] at hc
    obtain ⟨⟨a, b⟩, hmem, hclass⟩ := List.mem_filterMap.mp hc
    obtain ⟨rfl, rfl⟩ := rules_of_classify hclass
    exact ⟨mem_scannedPairs hmem, hclass⟩
  refine ⟨hconflicts, ?_, fun c hc => ?_, fun c hc => (hpair c hc).1, fun c hc => ?_⟩
  · have hkeep : ∀ pair ∈ scannedPairs registry.rules overrides (scanned config asked), ∀ c,
        classify pair.1 pair.2 = some c →
          s(c.first.id, c.second.id) = s(pair.1.id, pair.2.id) := by
      intro pair _ c hclass
      obtain ⟨hfirst, hsecond⟩ := rules_of_classify hclass
      rw [hfirst, hsecond]
    rw [hconflicts]
    refine List.Sublist.nodup ?_ hregistry.nodup_ids.sym2
    exact (map_filterMap_sublist hkeep).trans
      (ids_scannedPairs_sublist_sym2 registry.rules overrides (scanned config asked))
  · simpa using (hpair c hc).1.nodup hregistry.nodup_ids
  · exact first_check_of_classify (hpair c hc).2

/-- Three rules: two about memory that contradict each other, and one that has the topic of the
second and another severity. -/
def poolRules : List Rule :=
  let rule (id description : String) (category : Category) (severity : Severity) : Rule :=
    ⟨id, id, description, "", [category], severity, true, .none, none, none⟩
  [rule "universal-memory-pools" "Allow memory pools." .universal .error,
    rule "kernel-memory-heap" "Forbid the heap." .kernel .error,
    rule "drivers-heap" "Avoid the heap." .universal .info]

/-- The report on the three rules is exact, and it tells of two conflicts. -/
theorem poolRules_isExact :
    (Registry.ofRules poolRules).Reachable ∧
      (scan (.ofRules poolRules) .standard none (some [.kernel])).IsExact (.ofRules poolRules) none
        (scanned .standard (some [.kernel])) ∧
      (scan (.ofRules poolRules) .standard none (some [.kernel])).conflicts.map
        (fun c => (c.first.id, c.second.id, c.kind)) =
          [("universal-memory-pools", "kernel-memory-heap", .direct),
            ("kernel-memory-heap", "drivers-heap", .precedence)] := by
  have hregistry := Registry.reachable_ofRules poolRules
  exact ⟨hregistry, scan_isExact hregistry .standard none (some [.kernel]), by decide +kernel⟩

end Rulebook.Conflict
