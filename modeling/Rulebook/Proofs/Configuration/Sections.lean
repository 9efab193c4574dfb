/-
**The sections that are read.**

The sections of a configuration are read entry by entry.  An entry whose name is no category, or
whose value is no section, is passed over, and of several sections of one category the last one
counts.  Whatever else a configuration holds does not matter for its sections, and the switches of
a section that was read are apart from its other fields.

Main definitions:

* `Rulebook.Configuration.LastSection` — the last section of a category among some entries.

Main results:

* `Rulebook.Configuration.get?_readSections_eq_some_iff` — **the section of a category is the last
  one** that was written for it;
* `Rulebook.Configuration.sections_of_ofJson` — the sections of a configuration are those of its
  field;
* `Rulebook.CategorySection.ofJson_object_eq_ok_iff` — a section is read field by field;
* `Rulebook.CategorySection.flagsApart_of_ofJson` — the switches of a section are apart.
-/

import Rulebook.Proofs.Configuration.Decoding

set_option autoImplicit false

namespace Rulebook

/-! ### Entries -/

namespace Configuration

/-- The last section of a category among some entries. -/
def LastSection (c : Category) (entries : Fields) (s : CategorySection) : Prop :=
  ∃ before entry after, entries = before ++ entry :: after ∧ readSection? entry = some (c, s) ∧
    ∀ later ∈ after, ∀ other, readSection? later ≠ some (c, other)

theorem readSection?_eq_some_iff {entry : String × Json} {c : Category} {s : CategorySection} :
    readSection? entry = some (c, s) ↔
      Category.parse entry.1.toList = .ok c ∧ CategorySection.ofJson entry.2 = .ok s := by
  rw [readSection?]
  split
  · rename_i category body hcategory hbody
    simp [hcategory, hbody]
  · rename_i hnot
    constructor
    · intro h
      cases h
    · rintro ⟨hcategory, hbody⟩
      exact absurd hbody (hnot c s hcategory)

theorem readSections_object (entries : Fields) :
    readSections (.object entries) = .ofList (entries.filterMap readSection?) := rfl

/-- What comes later counts. -/
theorem get?_readSections_append (first second : Fields) (c : Category) :
    (readSections (.object (first ++ second))).get? c =
      ((readSections (.object second)).get? c).or ((readSections (.object first)).get? c) := by
  rw [readSections_object, List.filterMap_append, SortedMap.get?_ofList_append]
  rfl

theorem get?_readSections_eq_none_iff {entries : Fields} {c : Category} :
    (readSections (.object entries)).get? c = none ↔
      ∀ entry ∈ entries, ∀ s, readSection? entry ≠ some (c, s) := by
  rw [readSections_object, SortedMap.get?_ofList_eq_none_iff]
  constructor
  · intro h entry hentry s hsection
    exact h (c, s) (List.mem_filterMap.mpr ⟨entry, hentry, hsection⟩) rfl
  · rintro h ⟨c', s⟩ hmem rfl
    obtain ⟨entry, hentry, hsection⟩ := List.mem_filterMap.mp hmem
    exact h entry hentry s hsection

/-- **The section of a category is the last one that was written for it.** -/
theorem get?_readSections_eq_some_iff {entries : Fields} {c : Category} {s : CategorySection} :
    (readSections (.object entries)).get? c = some s ↔ LastSection c entries s := by
  constructor
  · intro h
    rw [readSections_object, SortedMap.get?_ofList_eq_some_iff] at h
    obtain ⟨before, after, hsplit, hafter⟩ := h
    obtain ⟨first, second, rfl, -, hsecond⟩ := List.filterMap_eq_append_iff.mp hsplit
    obtain ⟨skipped, entry, rest, rfl, -, hsection, rfl⟩ := List.filterMap_eq_cons_iff.mp hsecond
    refine ⟨first ++ skipped, entry, rest, by simp, hsection, fun later hlater other heq => ?_⟩
    exact hafter (c, other) (List.mem_filterMap.mpr ⟨later, hlater, heq⟩) rfl
  · rintro ⟨before, entry, after, rfl, hsection, hafter⟩
    have hrest : (readSections (.object after)).get? c = none :=
      get?_readSections_eq_none_iff.mpr hafter
    have hentry : (readSections (.object [entry])).get? c = some s := by
      rw [readSections_object, List.filterMap_cons_some hsection, SortedMap.get?_ofList_cons]
      simp [SortedMap.ofList]
    rw [get?_readSections_append, ← List.singleton_append, get?_readSections_append, hrest, hentry]
    rfl

/-- A category that has a section among some entries has a last one. -/
theorem exists_lastSection {entries : Fields} {entry : String × Json} {c : Category}
    {s : CategorySection} (hentry : entry ∈ entries) (h : readSection? entry = some (c, s)) :
    ∃ last, LastSection c entries last := by
  cases hget : (readSections (.object entries)).get? c with
  | none => exact absurd h (get?_readSections_eq_none_iff.mp hget entry hentry s)
  | some last => exact ⟨last, get?_readSections_eq_some_iff.mp hget⟩

/-! ### The field of the sections -/

/-- The sections of a configuration that is read are those of its field. -/
theorem sections_of_ofJson {value : Json} {config : Configuration}
    (h : ofJson value = .ok config) :
    ∃ fields : Fields, (∀ written, value = .object written → fields = written) ∧
      config.sections =
        (Fields.get? fields "category_overrides").elim .empty readSections := by
  rw [ofJson] at h
  obtain ⟨r, hr, h⟩ := exists_of_bind_eq_ok h
  obtain ⟨version, -, h⟩ := exists_of_bind_eq_ok h
  obtain ⟨categories, -, h⟩ := exists_of_bind_eq_ok h
  obtain ⟨languageStandard, -, h⟩ := exists_of_bind_eq_ok h
  obtain ⟨universalRules, -, h⟩ := exists_of_bind_eq_ok h
  obtain ⟨sections, hsections, h⟩ := exists_of_bind_eq_ok h
  obtain ⟨staticAnalysis, -, h⟩ := exists_of_bind_eq_ok h
  obtain ⟨customRules, -, h⟩ := exists_of_bind_eq_ok h
  cases h
  refine ⟨r.fields, ?_, ?_⟩
  · rintro written rfl
    obtain ⟨-, -, hread⟩ := exists_of_bind_eq_ok hr
    cases hread
    rfl
  · rw [Json.Record.optional] at hsections
    cases hget : Fields.get? r.fields "category_overrides" with
    | none =>
        rw [hget] at hsections
        cases hsections
        rfl
    | some v =>
        rw [hget] at hsections
        cases hsections
        rfl

theorem sections_of_get? {fields : Fields} {v : Json} {config : Configuration}
    (h : ofJson (.object fields) = .ok config)
    (hget : Fields.get? fields "category_overrides" = some v) : config.sections = readSections v := by
  obtain ⟨written, hwritten, hsections⟩ := sections_of_ofJson h
  rw [hsections, hwritten fields rfl, hget, Option.elim_some]

end Configuration

/-! ### The fields of a section -/

namespace CategorySection

/-- An object is read as a section field by field. -/
theorem ofJson_object_eq_ok_iff {fields : Fields} {s : CategorySection} :
    ofJson (.object fields) = .ok s ↔
      Json.Record.optional ⟨fields, .missing⟩ "disabled_rules" (Json.asList Json.asString) [] =
          .ok s.disabledRules ∧
        Json.Record.optional ⟨fields, .missing⟩ "enabled_rules" (Json.asList Json.asString) [] =
          .ok s.enabledRules ∧
        Json.Record.optional ⟨fields, .missing⟩ "severity" (Json.asMap Severity.ofJson) .empty =
          .ok s.severity ∧
        Json.Record.optional ⟨fields, .missing⟩ "rules" (Json.asMap RuleEntry.ofJson) .empty =
          .ok s.rules ∧
        s.flags = .ofList (flagFields fields) := by
  constructor
  · intro h
    rw [ofJson] at h
    obtain ⟨disabledRules, hdisabled, h⟩ := exists_of_bind_eq_ok h
    obtain ⟨enabledRules, henabled, h⟩ := exists_of_bind_eq_ok h
    obtain ⟨severity, hseverity, h⟩ := exists_of_bind_eq_ok h
    obtain ⟨rules, hrules, h⟩ := exists_of_bind_eq_ok h
    cases h
    exact ⟨hdisabled, henabled, hseverity, hrules, rfl⟩
  · rintro ⟨hdisabled, henabled, hseverity, hrules, hflags⟩
    rw [ofJson, hdisabled, henabled, hseverity, hrules, ← hflags]
    rfl

/-- Nothing but an object is read as a section. -/
theorem exists_of_ofJson_eq_ok {value : Json} {s : CategorySection} (h : ofJson value = .ok s) :
    ∃ fields, value = .object fields := by
  cases value with
  | object fields => exact ⟨fields, rfl⟩
  | _ => cases h

/-- **The switches of a section that was read are apart** from its other fields. -/
theorem flagsApart_of_ofJson {value : Json} {s : CategorySection} (h : ofJson value = .ok s) :
    s.FlagsApart := by
  intro name hname
  obtain ⟨fields, rfl⟩ := exists_of_ofJson_eq_ok h
  obtain ⟨-, -, -, -, hflags⟩ := ofJson_object_eq_ok_iff.mp h
  rw [hflags]
  refine SortedMap.get?_ofList_eq_none_iff.mpr ?_
  rintro field hfield rfl
  obtain ⟨-, hother⟩ := List.mem_filter.mp hfield
  simp [hname] at hother

end CategorySection

theorem Configuration.flagsApart_of_ofJson {value : Json} {config : Configuration}
    (h : ofJson value = .ok config) {c : Category} {s : CategorySection}
    (hget : config.sections.get? c = some s) : s.FlagsApart := by
  obtain ⟨fields, -, hsections⟩ := sections_of_ofJson h
  rw [hsections] at hget
  cases hfield : Fields.get? fields "category_overrides" with
  | none =>
      rw [hfield] at hget
      cases hget
  | some v =>
      rw [hfield, Option.elim_some] at hget
      cases v with
      | object entries =>
          obtain ⟨before, entry, after, -, hsection, -⟩ :=
            get?_readSections_eq_some_iff.mp hget
          exact CategorySection.flagsApart_of_ofJson (readSection?_eq_some_iff.mp hsection).2
      | _ => cases hget

end Rulebook
