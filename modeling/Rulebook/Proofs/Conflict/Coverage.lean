/-
**What a scan says about the conflicts of a prompt.**

The rules of a prompt are taken as they are in force for one category.  The rules of a scan are
taken as they are in force for all scanned categories together, each rule once, with the overrides
of every category layered on it.  So a scan may be silent about two rules that meet in the prompt
of a scanned category: another category may have put one of them out of force, or may have given
both one severity (`Rulebook.Conflict.not_all_reported`).  That is the only way in which a conflict
gets lost.  The reason is that layering all categories on a rule forgets what one of them did to it,
so that the rules of the scan are those of the prompt with the remaining layers on top.

Main definitions:

* `Rulebook.Conflict.Report.pairs` — the pairs of ids that a report tells of;
* `Rulebook.Conflict.Outlasts` — whether a conflict is still one after more layers.

Main results:

* `Rulebook.Conflict.mem_pairs_scan_iff` — a conflict of the prompt of a scanned category is
  reported exactly if it outlasts the layers of the scan.
-/

import Rulebook.Prompt.Data
import Rulebook.Proofs.Conflict.Pairs
import Rulebook.Proofs.Registry.Reachable

set_option autoImplicit false

namespace Rulebook.Conflict

/-- The pairs of ids that a report tells of. -/
def Report.pairs (report : Report) : List (String × String) :=
  report.entries.map fun entry => (entry.conflict.first.id, entry.conflict.second.id)

/-- Whether a conflict is still one after more layers: both rules are in force, and if it is one of
precedence, then the severities still differ, or the rules are of different scope and share enough
keywords. -/
def Outlasts (os : Overrides) (categories : List Category) (c : Conflict) : Prop :=
  (os.applyLayered c.first categories).enabled ∧ (os.applyLayered c.second categories).enabled ∧
    (c.kind = .precedence →
      (os.applyLayered c.first categories).severity ≠
          (os.applyLayered c.second categories).severity ∨
        (scope? c.first c.second).isSome)

instance (os : Overrides) (categories : List Category) (c : Conflict) :
    Decidable (c.Outlasts os categories) := by
  unfold Outlasts
  infer_instance

/-! ### The rules of a prompt and those of a scan -/

theorem mem_pairs_scan {registry : Registry} {config : Configuration} {os : Option Overrides}
    {asked : Option (List Category)} {a b : String} :
    (a, b) ∈ (scan registry config os asked).pairs ↔
      ∃ c ∈ among (activeRules registry os (scanned config asked)),
        c.first.id = a ∧ c.second.id = b := by
  simp [Report.pairs, scan, settle]

theorem scanned_some (config : Configuration) (categories : List Category) :
    scanned config (some categories) =
      if categories.contains .universal then categories else categories ++ [.universal] := rfl

/-- The universal category takes its turn anyway. -/
theorem layers_scanned (config : Configuration) (categories : List Category) :
    layers (scanned config (some categories)) = layers categories := by
  rw [scanned_some]
  split
  · rfl
  · simp [layers, List.filter_append]

theorem mem_scanned {config : Configuration} {categories : List Category} {category : Category} :
    category ∈ scanned config (some categories) ↔
      category = .universal ∨ category ∈ categories := by
  rw [scanned_some]
  split
  · rename_i h
    have huniversal : Category.universal ∈ categories := List.contains_iff_mem.mp h
    constructor
    · exact Or.inr
    · rintro (rfl | hcategory)
      · exact huniversal
      · exact hcategory
  · rw [List.mem_append, List.mem_singleton, or_comm]

/-- The pairs of the rules in force come from pairs of the registry. -/
theorem pair_sublist_inForce {registry : Registry} {categories : List Category}
    {f : Rule → Rule} {a b : Rule} :
    [a, b].Sublist (((registry.query categories none).map f).filter (·.enabled)) ↔
      ∃ r s, [r, s].Sublist registry.rules ∧
        (categories.any r.hasCategory ∧ categories.any s.hasCategory) ∧
        (f r = a ∧ f s = b) ∧ a.enabled ∧ b.enabled := by
  rw [pair_sublist_filter, pair_sublist_map]
  constructor
  · rintro ⟨⟨r, s, hpair, hr, hs⟩, henabled⟩
    obtain ⟨hpair, hrq, hsq⟩ := pair_sublist_filter.mp hpair
    exact ⟨r, s, hpair, ⟨by simpa using hrq, by simpa using hsq⟩, ⟨hr, hs⟩, henabled⟩
  · rintro ⟨r, s, hpair, ⟨hrq, hsq⟩, ⟨hr, hs⟩, henabled⟩
    exact ⟨⟨r, s, pair_sublist_filter.mpr ⟨hpair, by simpa using hrq, by simpa using hsq⟩, hr, hs⟩,
      henabled⟩

/-- A rule that is looked at for a category is looked at in a scan of the category. -/
theorem any_hasCategory_scanned {config : Configuration} {categories : List Category}
    {category : Category} (hmem : category ∈ categories) {rule : Rule}
    (h : [category, .universal].any rule.hasCategory) :
    (scanned config (some categories)).any rule.hasCategory := by
  obtain ⟨c, hc, hrule⟩ := List.any_eq_true.mp h
  refine List.any_eq_true.mpr ⟨c, mem_scanned.mpr ?_, hrule⟩
  obtain rfl | hc := List.mem_cons.mp hc
  · exact Or.inr hmem
  · exact Or.inl (List.mem_singleton.mp hc)

/-- What a scan makes of a rule, it makes of the rule as it is in the prompt of a category. -/
theorem adjusted_scanned (config : Configuration) (os : Overrides) {categories : List Category}
    {category : Category} (hmem : category ∈ categories) (rule : Rule) :
    adjusted (some os) (scanned config (some categories)) rule =
      os.applyLayered (os.applyLayered rule [category]) categories := by
  have hsingle : [category] ⊆ categories :=
    List.cons_subset.mpr ⟨hmem, List.nil_subset categories⟩
  rw [Overrides.applyLayered_applyLayered os rule hsingle]
  simp only [adjusted, Overrides.applyLayered, layers_scanned]

section

variable {registry : Registry} (config : Configuration) (os : Overrides)
  {categories : List Category} {category : Category} (hmem : category ∈ categories) {a b : Rule}
  (hpair : [a, b].Sublist (Prompt.activeRules registry os category))

include hmem hpair

/-- A pair of the prompt is a pair of the scan, as long as the layers leave both rules in force. -/
theorem pair_sublist_scan (ha : (os.applyLayered a categories).enabled)
    (hb : (os.applyLayered b categories).enabled) :
    [os.applyLayered a categories, os.applyLayered b categories].Sublist
      (activeRules registry (some os) (scanned config (some categories))) := by
  obtain ⟨r, s, hrs, ⟨hr, hs⟩, ⟨rfl, rfl⟩, -⟩ := pair_sublist_inForce.mp hpair
  refine pair_sublist_inForce.mpr ⟨r, s, hrs, ⟨?_, ?_⟩, ⟨?_, ?_⟩, ha, hb⟩
  · exact any_hasCategory_scanned hmem hr
  · exact any_hasCategory_scanned hmem hs
  · exact adjusted_scanned config os hmem r
  · exact adjusted_scanned config os hmem s

/-- A pair of the scan with the ids of a pair of the prompt is that pair under the layers. -/
theorem eq_of_pair_sublist_scan (hregistry : registry.Reachable) {a' b' : Rule}
    (hscan : [a', b'].Sublist
      (activeRules registry (some os) (scanned config (some categories))))
    (hida : a'.id = a.id) (hidb : b'.id = b.id) :
    a' = os.applyLayered a categories ∧ b' = os.applyLayered b categories ∧
      a'.enabled ∧ b'.enabled := by
  obtain ⟨r, s, hrs, -, ⟨rfl, rfl⟩, -⟩ := pair_sublist_inForce.mp hpair
  obtain ⟨r', s', hrs', -, ⟨ha', hb'⟩, henabled⟩ := pair_sublist_inForce.mp hscan
  rw [adjusted_scanned config os hmem] at ha' hb'
  -- The ids tell that the scan has come to the pair by the same two rules of the registry.
  have hr : r' = r := by
    refine hregistry.eq_of_id_eq (hrs'.subset (by simp)) (hrs.subset (by simp)) ?_
    rw [← ha'] at hida
    simpa using hida
  have hs : s' = s := by
    refine hregistry.eq_of_id_eq (hrs'.subset (by simp)) (hrs.subset (by simp)) ?_
    rw [← hb'] at hidb
    simpa using hidb
  subst hr hs
  exact ⟨ha'.symm, hb'.symm, henabled⟩

end

/-- **The conflicts of a prompt that a scan reports.**  Take a conflict among the rules that are in
force for a category, and a scan of that category and perhaps others.  The scan reports the pair
exactly if the conflict outlasts the layers of all the categories that are scanned. -/
theorem mem_pairs_scan_iff {registry : Registry} (hregistry : registry.Reachable)
    (config : Configuration) (os : Overrides) {categories : List Category} {category : Category}
    (hmem : category ∈ categories) {c : Conflict}
    (hc : c ∈ among (Prompt.activeRules registry os category)) :
    (c.first.id, c.second.id) ∈ (scan registry config (some os) (some categories)).pairs ↔
      c.Outlasts os categories := by
  obtain ⟨hpair, hid, hclass⟩ := mem_among.mp hc
  have hstill : (classify (os.applyLayered c.first categories)
        (os.applyLayered c.second categories)).isSome ↔
      (c.kind = .precedence →
        (os.applyLayered c.first categories).severity ≠
            (os.applyLayered c.second categories).severity ∨
          (scope? c.first c.second).isSome) := by
    rw [Overrides.applyLayered_eq, Overrides.applyLayered_eq]
    exact isSome_classify_applyTo _ _ hclass
  rw [mem_pairs_scan]
  constructor
  · rintro ⟨d, hd, hfirst, hsecond⟩
    obtain ⟨hdpair, -, hdclass⟩ := mem_among.mp hd
    obtain ⟨hdfirst, hdsecond, henabled⟩ :=
      eq_of_pair_sublist_scan config os hmem hpair hregistry hdpair hfirst hsecond
    rw [hdfirst, hdsecond] at henabled hdclass
    exact ⟨henabled.1, henabled.2, hstill.mp (Option.isSome_of_eq_some hdclass)⟩
  · rintro ⟨hfirst, hsecond, hkind⟩
    have hid' : (os.applyLayered c.first categories).id ≠
        (os.applyLayered c.second categories).id := by
      simpa using hid
    obtain ⟨d, hd, hdfirst, hdsecond⟩ := exists_mem_among
      (pair_sublist_scan config os hmem hpair hfirst hsecond) hid' (hstill.mpr hkind)
    refine ⟨d, hd, ?_, ?_⟩
    · rw [hdfirst, Overrides.id_applyLayered]
    · rw [hdsecond, Overrides.id_applyLayered]

/-! ### A conflict that is reported, and one that is not -/

/-- A rule that is in force and an error. -/
def plainRule (id description : String) (category : Category) : Rule where
  id := id
  name := id
  description := description
  rationale := ""
  category := [category]
  severity := .error
  enabled := true
  examples := .none
  standard := none
  source := none

/-- Two rules about memory that contradict each other. -/
def memoryRules : List Rule :=
  [plainRule "universal-memory_safety" "Allow dynamic allocation only with checked sizes."
      .universal,
    plainRule "embedded-no-dynamic-memory" "Forbid dynamic allocation after initialization."
      .embedded]

/-- The two rules meet in the prompt of the embedded category, and a scan of this category and the
kernel one tells of them, as long as the project has no settings of its own. -/
theorem memoryRules_reported :
    ∃ c ∈ among (Prompt.activeRules (.ofRules memoryRules) (.ofConfiguration .standard) .embedded),
      (c.first.id, c.second.id) ∈
        (scan (.ofRules memoryRules) .standard (some (.ofConfiguration .standard))
          (some [.embedded, .kernel])).pairs := by
  have hprompt : ∃ c ∈ among (Prompt.activeRules (.ofRules memoryRules)
      (.ofConfiguration .standard) .embedded),
      c.Outlasts (.ofConfiguration .standard) [.embedded, .kernel] := by
    decide +kernel
  obtain ⟨c, hc, houtlasts⟩ := hprompt
  exact ⟨c, hc, (mem_pairs_scan_iff (Registry.reachable_ofRules memoryRules) .standard _
    (by decide) hc).mpr houtlasts⟩

/-- The settings of a project whose kernel category puts the universal rule out of force. -/
def kernelSettings : Configuration :=
  { Configuration.standard with
    categories := [.embedded, .kernel]
    sections := SortedMap.empty.insert .kernel
      { CategorySection.empty with disabledRules := ["universal-memory_safety"] } }

/-- If the kernel category puts one of the two rules out of force, they still meet in the prompt of
the embedded category, but a scan of both categories is silent about them. -/
theorem not_all_reported :
    ¬ ∀ (registry : Registry) (config : Configuration) (categories : List Category)
        (category : Category), registry.Reachable → category ∈ categories →
      ∀ c ∈ among (Prompt.activeRules registry (.ofConfiguration config) category),
        (c.first.id, c.second.id) ∈
          (scan registry config (some (.ofConfiguration config)) (some categories)).pairs := by
  intro h
  have hprompt : ∃ c ∈ among (Prompt.activeRules (.ofRules memoryRules)
      (.ofConfiguration kernelSettings) .embedded), True := by
    decide +kernel
  have hscan : (scan (.ofRules memoryRules) kernelSettings (some (.ofConfiguration kernelSettings))
      (some [.embedded, .kernel])).pairs = [] := by
    decide +kernel
  obtain ⟨c, hc, -⟩ := hprompt
  have hreported := h (.ofRules memoryRules) kernelSettings [.embedded, .kernel] .embedded
    (Registry.reachable_ofRules memoryRules) (by decide) c hc
  rw [hscan] at hreported
  cases hreported

end Rulebook.Conflict
