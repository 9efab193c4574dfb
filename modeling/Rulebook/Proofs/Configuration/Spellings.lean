/-
**Sections and the spellings of their category.**

The name of a section is read in any case and without the blanks around it, so that one category may
have several sections in one object.  Only the last one that is read leaves its overrides: of an
earlier one there are no more than those that the last one has as well.  Layers are laid over one
another by the names as they are spelled.  Two sections with one spelling become a single section,
which has the overrides of both as long as they set different fields; with two spellings they stay
apart, and the section of the upper layer is the one that counts.

Main definitions:

* `Rulebook.CategorySection.Within` — a section whose parts are among those of another one;
* `Rulebook.Configuration.OnlySection` — the only entry of a category;
* `Rulebook.Configuration.TwoLayers` — two layers that write a section of one category.

Main results:

* `Rulebook.CategorySection.ofJson_append` — sections that set different fields are both within the
  section of all fields;
* `Rulebook.Configuration.mem_overrides_iff` — the overrides of a section are those of a
  configuration as far as its own section of the category has them;
* `Rulebook.Configuration.kept_iff_last` — **overrides of a section are kept exactly if the last
  section of its category has them**, and in two layers exactly if the spellings are the same;
* `Rulebook.Configuration.not_always_kept` — so they are not always kept.
-/

import Rulebook.Proofs.Configuration.Sections
import Rulebook.Proofs.Json.Merging
import Rulebook.Proofs.Override.Saying

set_option autoImplicit false

namespace Rulebook

/-! ### Fields that are set in one of two objects -/

/-- A field that is not set in both of two objects is read from both of them together, with what
either of them says. -/
theorem Json.Record.exists_optional_append {α β : Type} {first second : Fields} {name : String}
    {read : Json.Decoder α} {default a b : α} (parts : α → List β) (hdefault : parts default = [])
    (hdisjoint : Fields.get? first name = none ∨ Fields.get? second name = none)
    (hfirst : optional ⟨first, .missing⟩ name read default = .ok a)
    (hsecond : optional ⟨second, .missing⟩ name read default = .ok b) :
    ∃ x, optional ⟨first ++ second, .missing⟩ name read default = .ok x ∧
      parts a ⊆ parts x ∧ parts b ⊆ parts x := by
  cases hdisjoint with
  | inl hnone =>
      have ha : default = a := by
        rw [Json.Record.optional_of_none hnone] at hfirst
        exact Except.ok.inj hfirst
      refine ⟨b, ?_, ?_, List.Subset.refl _⟩
      · rw [← hsecond, optional, optional, Fields.get?_append, hnone, Option.none_or]
      · rw [← ha, hdefault]
        exact List.nil_subset _
  | inr hnone =>
      have hb : default = b := by
        rw [Json.Record.optional_of_none hnone] at hsecond
        exact Except.ok.inj hsecond
      refine ⟨a, ?_, List.Subset.refl _, ?_⟩
      · rw [← hfirst, optional, optional, Fields.get?_append, hnone, Option.or_none]
      · rw [← hb, hdefault]
        exact List.nil_subset _

namespace CategorySection

/-- A section whose parts are among those of another one. -/
structure Within (s u : CategorySection) : Prop where
  /-- Its disabled rules are among the other's. -/
  disabledRules : s.disabledRules ⊆ u.disabledRules
  /-- Its enabled rules are among the other's. -/
  enabledRules : s.enabledRules ⊆ u.enabledRules
  /-- Its severities are among the other's. -/
  severity : s.severity.entries ⊆ u.severity.entries
  /-- Its records are among the other's. -/
  rules : s.rules.entries ⊆ u.rules.entries
  /-- Its switches are among the other's. -/
  flags : s.flags.entries ⊆ u.flags.entries

variable {c : Category} {s t u : CategorySection}

theorem Within.overrides_subset (h : s.Within u) (c : Category) :
    s.overrides c ⊆ u.overrides c := by
  intro o ho
  simp only [overrides, List.mem_append] at ho ⊢
  rcases ho with (((ho | ho) | ho) | ho) | ho
  · exact .inl (.inl (.inl (.inl (List.map_subset _ h.disabledRules ho))))
  · exact .inl (.inl (.inl (.inr (List.map_subset _ h.enabledRules ho))))
  · exact .inl (.inl (.inr (List.map_subset _ h.severity ho)))
  · exact .inl (.inr (List.map_subset _ h.rules ho))
  · exact .inr (List.filterMap_subset _ h.flags ho)

/-- A switch among the fields of an object is one of the fields. -/
theorem get?_ne_none_of_flag {fields : Fields} {flag : String × Json}
    (h : flag ∈ (SortedMap.ofList (flagFields fields)).entries) :
    Fields.get? fields flag.1 ≠ none := by
  have hget := ((SortedMap.ofList (flagFields fields)).mem_entries_iff flag.1 flag.2).mp h
  obtain ⟨before, after, hsplit, -⟩ := SortedMap.get?_ofList_eq_some_iff.mp hget
  have hmem : flag ∈ flagFields fields := hsplit ▸ List.mem_append_cons_self
  exact Fields.get?_ne_none_of_mem (List.mem_of_mem_filter hmem)

/-- **Sections that set different fields are both within the section of all fields.** -/
theorem ofJson_append {first second : Fields}
    (hdisjoint : ∀ name, Fields.get? first name = none ∨ Fields.get? second name = none)
    (hs : ofJson (.object first) = .ok s) (ht : ofJson (.object second) = .ok t) :
    ∃ u, ofJson (.object (first ++ second)) = .ok u ∧ s.Within u ∧ t.Within u := by
  obtain ⟨hdisabled, henabled, hseverity, hrules, hflags⟩ := ofJson_object_eq_ok_iff.mp hs
  obtain ⟨hdisabled', henabled', hseverity', hrules', hflags'⟩ := ofJson_object_eq_ok_iff.mp ht
  obtain ⟨disabled, hread, hsub, hsub'⟩ :=
    Json.Record.exists_optional_append id rfl (hdisjoint _) hdisabled hdisabled'
  obtain ⟨enabled, hread₁, hsub₁, hsub₁'⟩ :=
    Json.Record.exists_optional_append id rfl (hdisjoint _) henabled henabled'
  obtain ⟨severity, hread₂, hsub₂, hsub₂'⟩ :=
    Json.Record.exists_optional_append SortedMap.entries rfl (hdisjoint _) hseverity hseverity'
  obtain ⟨rules, hread₃, hsub₃, hsub₃'⟩ :=
    Json.Record.exists_optional_append SortedMap.entries rfl (hdisjoint _) hrules hrules'
  have hget (name : String) :
      (SortedMap.ofList (flagFields (first ++ second))).get? name =
        (t.flags.get? name).or (s.flags.get? name) := by
    rw [flagFields, List.filter_append, SortedMap.get?_ofList_append, hflags, hflags']
    rfl
  refine ⟨⟨disabled, enabled, severity, rules, .ofList (flagFields (first ++ second))⟩,
    ofJson_object_eq_ok_iff.mpr ⟨hread, hread₁, hread₂, hread₃, rfl⟩,
    ⟨hsub, hsub₁, hsub₂, hsub₃, ?_⟩, ⟨hsub', hsub₁', hsub₂', hsub₃', ?_⟩⟩
  · intro flag hflag
    have hother : t.flags.get? flag.1 = none := by
      rw [Option.eq_none_iff_forall_ne_some]
      intro value hvalue
      have hfirst := get?_ne_none_of_flag (hflags ▸ hflag)
      have hsecond := get?_ne_none_of_flag
        (hflags' ▸ (t.flags.mem_entries_iff flag.1 value).mpr hvalue)
      exact (hdisjoint flag.1).elim hfirst hsecond
    rw [SortedMap.mem_entries_iff, hget, hother, Option.none_or]
    exact (s.flags.mem_entries_iff flag.1 flag.2).mp hflag
  · intro flag hflag
    rw [SortedMap.mem_entries_iff, hget, (t.flags.mem_entries_iff flag.1 flag.2).mp hflag,
      Option.some_or]

end CategorySection

namespace Configuration

variable {c : Category} {s t : CategorySection} {o : Override} {config : Configuration}

/-! ### Overrides of a section in a configuration -/

theorem appliedBy_of_stateOverride? {entry : String × RuleState}
    (h : stateOverride? entry = some o) : o.appliedBy = .user := by
  rw [stateOverride?] at h
  split at h
  · cases h
  · obtain rfl := Option.some.inj h
    rfl
  · obtain rfl := Option.some.inj h
    rfl

/-- **The overrides of a section are those of a configuration as far as its own section of the
category has them.** -/
theorem mem_overrides_iff {own : CategorySection} (hown : config.sections.get? c = some own)
    (ho : o ∈ s.overrides c) : o ∈ config.overrides ↔ o ∈ own.overrides c := by
  rw [overrides, List.mem_append]
  constructor
  · rintro (hstate | hsection)
    · obtain ⟨entry, -, hentry⟩ := List.mem_filterMap.mp hstate
      have huser := appliedBy_of_stateOverride? hentry
      rw [(CategorySection.origin_of_mem_overrides ho).2] at huser
      cases huser
    · obtain ⟨⟨category, other⟩, hmem, hother⟩ := List.mem_flatMap.mp hsection
      obtain rfl : category = c :=
        (CategorySection.origin_of_mem_overrides hother).1.symm.trans
          (CategorySection.origin_of_mem_overrides ho).1
      rw [SortedMap.mem_entries_iff, hown] at hmem
      obtain rfl := Option.some.inj hmem
      exact hother
  · intro hmem
    exact .inr (List.mem_flatMap.mpr
      ⟨(c, own), (config.sections.mem_entries_iff c own).mpr hown, hmem⟩)

/-! ### One section of a category -/

/-- The only entry of a category among some, with its section. -/
structure OnlySection (c : Category) (entries : Fields) (entry : String × Json)
    (s : CategorySection) : Prop where
  /-- It is one of the entries. -/
  mem : entry ∈ entries
  /-- Its name is the category. -/
  parse_eq : Category.parse entry.1.toList = .ok c
  /-- Its value is the section. -/
  ofJson_eq : CategorySection.ofJson entry.2 = .ok s
  /-- No other entry has the category as its name. -/
  eq_of_parse : ∀ other ∈ entries, Category.parse other.1.toList = .ok c → other = entry

variable {entries lower upper : Fields} {entry low high : String × Json}

theorem OnlySection.get?_readSections (h : OnlySection c entries entry s) :
    (readSections (.object entries)).get? c = some s := by
  have hread : readSection? entry = some (c, s) :=
    readSection?_eq_some_iff.mpr ⟨h.parse_eq, h.ofJson_eq⟩
  cases hget : (readSections (.object entries)).get? c with
  | none => exact absurd hread (get?_readSections_eq_none_iff.mp hget entry h.mem s)
  | some last =>
      obtain ⟨before, other, after, rfl, hother, -⟩ := get?_readSections_eq_some_iff.mp hget
      have hsame : other = entry :=
        h.eq_of_parse other (by simp) (readSection?_eq_some_iff.mp hother).1
      rw [hsame, hread] at hother
      exact congrArg some (congrArg Prod.snd (Option.some.inj hother)).symm

/-! ### Sections in two layers -/

/-- Sections with one spelling become a single section, which has the parts of both. -/
theorem exists_get?_readSections_of_eq (hlower : (Json.object lower).UniqueKeys)
    (hupper : (Json.object upper).UniqueKeys) (hlow : OnlySection c lower low s)
    (hhigh : OnlySection c upper high t) (hspelling : low.1 = high.1)
    (hdisjoint : ∀ name, low.2.get? name = none ∨ high.2.get? name = none) :
    ∃ u, (readSections (.object (Json.mergeFields lower upper))).get? c = some u ∧
      s.Within u ∧ t.Within u := by
  obtain ⟨lowFields, hlowFields⟩ := CategorySection.exists_of_ofJson_eq_ok hlow.ofJson_eq
  obtain ⟨highFields, hhighFields⟩ := CategorySection.exists_of_ofJson_eq_ok hhigh.ofJson_eq
  have hlowKeys := Json.UniqueKeysFields.of_mem hlower.2 hlow.mem
  have hhighKeys := Json.UniqueKeysFields.of_mem hupper.2 hhigh.mem
  have hs := hlow.ofJson_eq
  have ht := hhigh.ofJson_eq
  rw [hlowFields] at hs hlowKeys hdisjoint
  rw [hhighFields] at ht hhighKeys hdisjoint
  obtain ⟨u, hu, hsu, htu⟩ := CategorySection.ofJson_append hdisjoint hs ht
  have hmerged : Json.overlaid upper low = (low.1, .object (lowFields ++ highFields)) := by
    rw [Json.overlaid, hspelling, Fields.get?_of_mem hupper.1 hhigh.mem, Option.elim_some,
      hlowFields, hhighFields, Json.merge_object_object,
      Json.mergeFields_of_disjoint hlowKeys.1 hhighKeys.1 hdisjoint]
  have hold : OnlySection c (lower.map (Json.overlaid upper)) (Json.overlaid upper low) u := by
    refine ⟨List.mem_map_of_mem hlow.mem, hlow.parse_eq, ?_, ?_⟩
    · rw [hmerged]
      exact hu
    · intro other hother hparse
      obtain ⟨field, hfield, rfl⟩ := List.mem_map.mp hother
      rw [hlow.eq_of_parse field hfield hparse]
  -- The section of the upper layer is merged in its place, so nothing of the category is new.
  have hnew : (readSections (.object (upper.filter fun field =>
      field.1 ∉ Fields.keys lower))).get? c = none := by
    refine get?_readSections_eq_none_iff.mpr fun field hfield other hread => ?_
    obtain ⟨hmem, hfresh⟩ := List.mem_filter.mp hfield
    rw [hhigh.eq_of_parse field hmem (readSection?_eq_some_iff.mp hread).1, ← hspelling] at hfresh
    exact of_decide_eq_true hfresh (List.mem_map_of_mem hlow.mem)
  refine ⟨u, ?_, hsu, htu⟩
  rw [Json.mergeFields_eq hlower.1 hupper.1, get?_readSections_append, hnew, Option.none_or,
    hold.get?_readSections]

/-- With two spellings the section of the upper layer counts. -/
theorem get?_readSections_of_ne (hlower : (Json.object lower).UniqueKeys)
    (hupper : (Json.object upper).UniqueKeys) (hlow : OnlySection c lower low s)
    (hhigh : OnlySection c upper high t) (hspelling : low.1 ≠ high.1) :
    (readSections (.object (Json.mergeFields lower upper))).get? c = some t := by
  have hfresh : high.1 ∉ Fields.keys lower := by
    intro hmem
    obtain ⟨field, hfield, hname⟩ := List.mem_map.mp hmem
    have hsame := hlow.eq_of_parse field hfield (hname ▸ hhigh.parse_eq)
    exact hspelling (hsame ▸ hname)
  have hnew : OnlySection c (upper.filter fun field => field.1 ∉ Fields.keys lower) high t := by
    refine ⟨List.mem_filter.mpr ⟨hhigh.mem, decide_eq_true hfresh⟩, hhigh.parse_eq,
      hhigh.ofJson_eq, fun other hother => ?_⟩
    exact hhigh.eq_of_parse other (List.mem_of_mem_filter hother)
  rw [Json.mergeFields_eq hlower.1 hupper.1, get?_readSections_append, hnew.get?_readSections,
    Option.some_or]

/-- Two layers that write one section each of a category, with different fields. -/
structure TwoLayers (c : Category) (base layer : Fields) (low high : String × Json)
    (s t : CategorySection) : Prop where
  /-- No name is repeated in the lower layer, -/
  baseUnique : (Json.object base).UniqueKeys
  /-- nor in the upper one. -/
  layerUnique : (Json.object layer).UniqueKeys
  /-- The lower layer has one section of the category. -/
  lower : ∃ entries, Fields.get? base "category_overrides" = some (.object entries) ∧
    OnlySection c entries low s
  /-- So has the upper one. -/
  upper : ∃ entries, Fields.get? layer "category_overrides" = some (.object entries) ∧
    OnlySection c entries high t
  /-- No field is set in both sections. -/
  disjoint : ∀ name, low.2.get? name = none ∨ high.2.get? name = none

/-- **Overrides of a section are kept exactly if the last section of its category has them.**  In two
layers, what the upper one says is kept, and what the lower one says exactly if the name is spelled
in the same way, or the upper one says it as well. -/
theorem kept_iff_last (fields : Fields) (config : Configuration)
    (hread : ofJson (.object fields) = .ok config) :
    (∀ entries, Fields.get? fields "category_overrides" = some (.object entries) →
      ∀ entry ∈ entries, ∀ c s, Category.parse entry.1.toList = .ok c →
        CategorySection.ofJson entry.2 = .ok s →
        ∃ last, LastSection c entries last ∧
          ∀ o ∈ s.overrides c, (o ∈ config.overrides ↔ o ∈ last.overrides c)) ∧
    ∀ c base layer low high s t, TwoLayers c base layer low high s t →
      Json.merge (.object base) (.object layer) = .object fields →
      (∀ o ∈ t.overrides c, o ∈ config.overrides) ∧
        ∀ o ∈ s.overrides c,
          (o ∈ config.overrides ↔ low.1 = high.1 ∨ o ∈ t.overrides c) := by
  constructor
  · intro entries hget entry hentry c s hparse hsection
    obtain ⟨last, hlast⟩ :=
      exists_lastSection hentry (readSection?_eq_some_iff.mpr ⟨hparse, hsection⟩)
    refine ⟨last, hlast, fun o ho => mem_overrides_iff ?_ ho⟩
    rw [sections_of_get? hread hget]
    exact get?_readSections_eq_some_iff.mpr hlast
  · intro c base layer low high s t h hmerge
    obtain ⟨lower, hlower, hlow⟩ := h.lower
    obtain ⟨upper, hupper, hhigh⟩ := h.upper
    have hlowerKeys := Json.UniqueKeysFields.of_mem h.baseUnique.2 (Fields.mem_of_get? hlower)
    have hupperKeys := Json.UniqueKeysFields.of_mem h.layerUnique.2 (Fields.mem_of_get? hupper)
    rw [Json.merge_object_object] at hmerge
    obtain rfl := Json.object.inj hmerge
    have hmerged : Fields.get? (Json.mergeFields base layer) "category_overrides" =
        some (.object (Json.mergeFields lower upper)) := by
      rw [Json.get?_mergeFields h.layerUnique.1, hupper, hlower, Option.elim_some,
        Option.elim_some, Json.merge_object_object]
    have hsections := sections_of_get? hread hmerged
    by_cases hspelling : low.1 = high.1
    · obtain ⟨u, hu, hsu, htu⟩ := exists_get?_readSections_of_eq hlowerKeys hupperKeys hlow hhigh
        hspelling h.disjoint
      rw [← hsections] at hu
      refine ⟨fun o ho => (mem_overrides_iff hu ho).mpr (htu.overrides_subset c ho), fun o ho => ?_⟩
      exact iff_of_true ((mem_overrides_iff hu ho).mpr (hsu.overrides_subset c ho)) (.inl hspelling)
    · have ht := get?_readSections_of_ne hlowerKeys hupperKeys hlow hhigh hspelling
      rw [← hsections] at ht
      refine ⟨fun o ho => (mem_overrides_iff ht ho).mpr ho, fun o ho => ?_⟩
      rw [mem_overrides_iff ht ho, or_iff_right hspelling]

/-- Settings with some sections and nothing else. -/
def settingsOf (entries : Fields) : Fields := [("category_overrides", .object entries)]

/-- A section that disables a rule, for a spelling of its category. -/
def disablingEntry (spelling : String) : String × Json :=
  (spelling, .object [("disabled_rules", .array [.string "embedded-a"])])

/-- A section that enables another rule, for a spelling of its category. -/
def enablingEntry (spelling : String) : String × Json :=
  (spelling, .object [("enabled_rules", .array [.string "embedded-b"])])

/-- Settings that enable a rule, for a spelling of a category, laid over settings that disable
another one. -/
def layered (spelling : String) : Fields :=
  Json.mergeFields (settingsOf [disablingEntry "embedded"]) (settingsOf [enablingEntry spelling])

theorem twoLayers_embedded (spelling : String)
    (h : Category.parse spelling.toList = .ok .embedded) :
    TwoLayers .embedded (settingsOf [disablingEntry "embedded"])
      (settingsOf [enablingEntry spelling]) (disablingEntry "embedded") (enablingEntry spelling)
      { CategorySection.empty with disabledRules := ["embedded-a"] }
      { CategorySection.empty with enabledRules := ["embedded-b"] } := by
  refine ⟨?_, ?_, ⟨_, rfl, ⟨by simp, Category.parse_name .embedded, rfl, by simp⟩⟩,
    ⟨_, rfl, ⟨by simp, h, rfl, by simp⟩⟩, fun name => ?_⟩
  · simp [settingsOf, disablingEntry, Json.UniqueKeys, Json.UniqueKeysFields, Json.UniqueKeysList,
      Fields.keys]
  · simp [settingsOf, enablingEntry, Json.UniqueKeys, Json.UniqueKeysFields, Json.UniqueKeysList,
      Fields.keys]
  · by_cases hname : "disabled_rules" = name
    · subst hname
      exact .inr rfl
    · exact .inl (Fields.get?_single_of_ne hname)

/-- With one spelling in both layers the overrides of both are kept; with two spellings those of the
lower layer are not. -/
theorem layeredSections_kept :
    (∃ config, ofJson (.object (layered "embedded")) = .ok config ∧
      CategorySection.disabling .embedded "embedded-a" ∈ config.overrides ∧
      CategorySection.enabling .embedded "embedded-b" ∈ config.overrides) ∧
    ∃ config, ofJson (.object (layered "Embedded")) = .ok config ∧
      CategorySection.disabling .embedded "embedded-a" ∉ config.overrides ∧
      CategorySection.enabling .embedded "embedded-b" ∈ config.overrides := by
  constructor
  · obtain ⟨config, hread⟩ : ∃ config, ofJson (.object (layered "embedded")) = .ok config :=
      ⟨_, rfl⟩
    obtain ⟨hupper, hlower⟩ := (kept_iff_last _ config hread).2 _ _ _ _ _ _ _
      (twoLayers_embedded "embedded" (Category.parse_name .embedded))
      (Json.merge_object_object _ _)
    exact ⟨config, hread, (hlower _ (by decide)).mpr (.inl rfl), hupper _ (by decide)⟩
  · obtain ⟨config, hread⟩ : ∃ config, ofJson (.object (layered "Embedded")) = .ok config :=
      ⟨_, rfl⟩
    obtain ⟨hupper, hlower⟩ := (kept_iff_last _ config hread).2 _ _ _ _ _ _ _
      (twoLayers_embedded "Embedded" (by decide +kernel)) (Json.merge_object_object _ _)
    have hlost : ¬ ("embedded" = "Embedded" ∨ CategorySection.disabling .embedded "embedded-a" ∈
        CategorySection.overrides .embedded
          { CategorySection.empty with enabledRules := ["embedded-b"] }) := by decide
    exact ⟨config, hread, fun hlow => hlost ((hlower _ (by decide)).mp hlow),
      hupper _ (by decide)⟩

/-- So overrides are not always kept, neither of an earlier section of one object nor of the section
in the lower one of two layers. -/
theorem not_always_kept :
    (¬ ∀ (fields entries : Fields) (config : Configuration), ofJson (.object fields) = .ok config →
      Fields.get? fields "category_overrides" = some (.object entries) →
      ∀ entry ∈ entries, ∀ c s, Category.parse entry.1.toList = .ok c →
        CategorySection.ofJson entry.2 = .ok s → ∀ o ∈ s.overrides c, o ∈ config.overrides) ∧
    ¬ ∀ (c : Category) (base layer : Fields) (low high : String × Json) (s t : CategorySection)
      (config : Configuration), TwoLayers c base layer low high s t → low.1 ≠ high.1 →
      ofJson (Json.merge (.object base) (.object layer)) = .ok config →
      (∀ o ∈ s.overrides c, o ∈ config.overrides) ∧ ∀ o ∈ t.overrides c, o ∈ config.overrides := by
  constructor
  · intro h
    obtain ⟨config, hread, hlost⟩ : ∃ config,
        ofJson (.object (settingsOf [disablingEntry "embedded", enablingEntry "Embedded"])) =
          .ok config ∧ CategorySection.disabling .embedded "embedded-a" ∉ config.overrides :=
      ⟨_, rfl, by decide +kernel⟩
    exact hlost (h _ _ config hread rfl (disablingEntry "embedded") (by simp) .embedded
      { CategorySection.empty with disabledRules := ["embedded-a"] }
      (Category.parse_name .embedded) rfl _ (by decide))
  · intro h
    obtain ⟨config, hread, hlost⟩ : ∃ config, ofJson (.object (layered "Embedded")) = .ok config ∧
        CategorySection.disabling .embedded "embedded-a" ∉ config.overrides :=
      ⟨_, rfl, by decide +kernel⟩
    have hlayers := twoLayers_embedded "Embedded" (by decide +kernel)
    rw [layered, ← Json.merge_object_object] at hread
    obtain ⟨hlow, -⟩ := h .embedded _ _ _ _ _ _ config hlayers (by decide) hread
    exact hlost (hlow _ (by decide))

end Configuration

end Rulebook
