/-
**Reading settings that were written.**

Every reader of `Rulebook/Configuration/Encoding.lean` has a writer beside it, and here each reader
is shown to give back what its writer was given: names of a vocabulary, maps, records, the sections
of categories.  A section shares its object with its switches, so it can be read back only if no
switch has the name of one of the other fields.

Main definitions:

* `Rulebook.CategorySection.FlagsApart` — no switch is named like another field of a section.

Main results:

* `Rulebook.Json.asMap_ofMap` — a map is read back if its values are;
* `Rulebook.RuleEntry.ofJson_toJson` — a record is read back;
* `Rulebook.CategorySection.ofJson_toJson` — so is a section whose switches are apart;
* `Rulebook.Configuration.readSections_sectionsToJson` — so are the sections of a configuration.
-/

import Rulebook.Configuration.Encoding
import Rulebook.Proofs.Json.Record
import Rulebook.Proofs.SortedMap

set_option autoImplicit false

namespace Rulebook

/-! ### Names -/

@[simp] theorem RuleState.ofJson_toJson (s : RuleState) : ofJson s.toJson = .ok s := by
  cases s <;> rfl

@[simp] theorem Action.ofJson_toJson (a : Action) : ofJson a.toJson = .ok a := by
  cases a <;> rfl

@[simp] theorem Severity.ofJson_toJson (s : Severity) : ofJson s.toJson = .ok s := by
  cases s <;> rfl

/-! ### Lists and maps -/

namespace Json

variable {α β : Type}

/-- A reader that undoes a writer on every item undoes it on a list of items. -/
theorem mapM_map_eq_ok {write : β → α} {read : α → Except Mismatch β} (items : List β)
    (h : ∀ b ∈ items, read (write b) = .ok b) : (items.map write).mapM read = .ok items := by
  induction items with
  | nil => rfl
  | cons b rest ih =>
      rw [List.map_cons, List.mapM_cons, h b List.mem_cons_self,
        ih fun b' hb => h b' (List.mem_cons_of_mem _ hb)]
      rfl

/-- The same for a reader that leaves out what it cannot read. -/
theorem filterMap_map_eq_self (write : β → α) (read : α → Option β) (items : List β)
    (h : ∀ b ∈ items, read (write b) = some b) : (items.map write).filterMap read = items := by
  induction items with
  | nil => rfl
  | cons b rest ih =>
      rw [List.map_cons, List.filterMap_cons_some (h b List.mem_cons_self),
        ih fun b' hb => h b' (List.mem_cons_of_mem _ hb)]

@[simp] theorem asList_ofStrings (texts : List String) :
    asList asString (ofStrings texts) = .ok texts :=
  mapM_map_eq_ok texts fun _ _ => rfl

/-- **A map is read back if its values are.** -/
theorem asMap_ofMap {read : Decoder α} {write : α → Json} (m : SortedMap String α)
    (h : ∀ key value, m.get? key = some value → read (write value) = .ok value) :
    asMap read (ofMap write m) = .ok m := by
  have hentries : asEntries read (m.entries.map fun entry => (entry.1, write entry.2)) =
      .ok m.entries := by
    refine mapM_map_eq_ok m.entries fun entry hentry => ?_
    have hget := (m.mem_entries_iff entry.1 entry.2).1 hentry
    simp only [h entry.1 entry.2 hget]
    rfl
  rw [ofMap, asMap, hentries]
  exact congrArg Except.ok m.ofList_entries

end Json

/-! ### Records -/

/-- A record is read back. -/
@[simp] theorem RuleEntry.ofJson_toJson (e : RuleEntry) : ofJson e.toJson = .ok e := by
  obtain ⟨action, severity, reason⟩ := e
  cases action <;> rcases severity with _ | (_ | _ | _) <;> cases reason <;> rfl

/-! ### Sections -/

namespace CategorySection

/-- No switch is named like another field of a section. -/
def FlagsApart (s : CategorySection) : Prop := ∀ name ∈ fieldNames, s.flags.get? name = none

theorem flagsApart_of_flags_eq_empty {s : CategorySection} (h : s.flags = .empty) :
    s.FlagsApart := by
  intro name _
  rw [h, SortedMap.get?_empty]

end CategorySection

namespace Json

/-- A field that was written unless its value was empty, before other fields. -/
theorem get?_fieldUnless_append (isEmpty : Bool) (name other : String) (value : Json)
    (rest : Fields) :
    Fields.get? (fieldUnless isEmpty name value ++ rest) other =
      if isEmpty = false ∧ name = other then some value else Fields.get? rest other := by
  cases isEmpty with
  | true => simp [fieldUnless]
  | false => simp [fieldUnless, Fields.get?_cons]

/-- The fields of a map are what it has under each key. -/
theorem get?_entries (m : SortedMap String Json) (key : String) :
    Fields.get? m.entries key = m.get? key := by
  rw [SortedMap.get?]
  induction m.entries with
  | nil => rfl
  | cons entry rest ih =>
      rw [Fields.get?_cons, SortedMap.find?_cons, ih]
      by_cases h : entry.1 = key
      · simp [h]
      · have h' : ¬ key = entry.1 := fun e => h e.symm
        simp [h, h']

/-- A field that is written unless it is empty is read back: a value that was not written is the
default. -/
theorem Record.optional_eq_ok {α : Type} {r : Record} {name : String} {read : Decoder α}
    {value default : α} {written : Json} {isEmpty : Bool}
    (hget : r.fields.get? name = if isEmpty = false then some written else none)
    (hread : read written = .ok value) (hempty : isEmpty = true → value = default) :
    r.optional name read default = .ok value := by
  cases isEmpty with
  | true => simp [Record.optional, hget, hempty rfl]
  | false => simp [Record.optional, hget, hread]

/-- A field that is not there is read as its default. -/
theorem Record.optional_of_none {α : Type} {r : Record} {name : String} {read : Decoder α}
    {default : α} (h : r.fields.get? name = none) : r.optional name read default = .ok default := by
  rw [Record.optional, h]

/-- Fields that fit one by one fit together. -/
theorem checkFields_eq_ok {known : List (String × Decoder Unit)} {fields : Fields}
    (h : ∀ field ∈ fields, ∀ check, known.lookup field.1 = some check → check field.2 = .ok ()) :
    checkFields known fields = .ok () := by
  induction fields with
  | nil => rfl
  | cons field rest ih =>
      refine checkFields_cons_eq_ok_iff.mpr ⟨h field List.mem_cons_self, ?_⟩
      exact ih fun f hf => h f (List.mem_cons_of_mem _ hf)

/-- An object whose fields fit is read as a record. -/
theorem Record.read_object {type : String} {known : List (String × Decoder Unit)}
    {fields : Fields} (h : checkFields known fields = .ok ()) :
    Record.read type known (.object fields) = .ok ⟨fields, .missing⟩ := by
  rw [Record.read, h]
  rfl

theorem mem_fieldUnless {isEmpty : Bool} {name : String} {value : Json} {field : String × Json}
    (h : field ∈ fieldUnless isEmpty name value) : field = (name, value) := by
  cases isEmpty with
  | true => exact nomatch h
  | false => exact List.mem_singleton.1 h

end Json

namespace CategorySection

variable {s : CategorySection}

/-- The switches of a section are what stands beside its other fields. -/
theorem flagFields_fields (h : s.FlagsApart) {fields : Fields}
    (hfields : s.toJson = .object fields) : flagFields fields = s.flags.entries := by
  rw [toJson] at hfields
  obtain rfl := Json.object.inj hfields
  have hkeep : s.flags.entries.filter (fun field => !fieldNames.contains field.1) =
      s.flags.entries := by
    refine List.filter_eq_self.2 fun entry hentry => ?_
    have hget := (s.flags.mem_entries_iff entry.1 entry.2).1 hentry
    rw [Bool.not_eq_true', ← Bool.not_eq_true, List.contains_iff_mem]
    intro hname
    rw [h entry.1 hname] at hget
    exact nomatch hget
  have hdrop (isEmpty : Bool) (name : String) (value : Json) (hname : name ∈ fieldNames) :
      (Json.fieldUnless isEmpty name value).filter (fun field => !fieldNames.contains field.1) =
        [] := by
    cases isEmpty with
    | true => rfl
    | false => simpa [Json.fieldUnless] using hname
  simp only [flagFields, List.filter_append, hkeep]
  rw [hdrop _ _ _ (by decide), hdrop _ _ _ (by decide), hdrop _ _ _ (by decide),
    hdrop _ _ _ (by decide)]
  rfl

/-- What a section has under the names that are not switches. -/
theorem get?_fields (h : s.FlagsApart) {fields : Fields} (hfields : s.toJson = .object fields)
    {name : String} (hname : name ∈ fieldNames) :
    Fields.get? fields name =
      if s.disabledRules.isEmpty = false ∧ "disabled_rules" = name then
        some (Json.ofStrings s.disabledRules)
      else if s.enabledRules.isEmpty = false ∧ "enabled_rules" = name then
        some (Json.ofStrings s.enabledRules)
      else if s.severity.isEmpty = false ∧ "severity" = name then
        some (Json.ofMap Severity.toJson s.severity)
      else if s.rules.isEmpty = false ∧ "rules" = name then
        some (Json.ofMap RuleEntry.toJson s.rules)
      else none := by
  rw [toJson] at hfields
  obtain rfl := Json.object.inj hfields
  have hnone : Fields.get? s.flags.entries name = none := by
    rw [Json.get?_entries, h name hname]
  simp only [List.append_assoc, Json.get?_fieldUnless_append, hnone]

/-- **A section whose switches are apart is read back.** -/
theorem ofJson_toJson (h : s.FlagsApart) : ofJson s.toJson = .ok s := by
  obtain ⟨fields, hfields⟩ : ∃ fields, s.toJson = .object fields := ⟨_, rfl⟩
  have hdisabled : Json.Record.optional ⟨fields, .missing⟩ "disabled_rules"
      (Json.asList Json.asString) [] = .ok s.disabledRules :=
    Json.Record.optional_eq_ok (by rw [get?_fields h hfields (by decide)]; simp)
      (Json.asList_ofStrings _) List.isEmpty_iff.1
  have henabled : Json.Record.optional ⟨fields, .missing⟩ "enabled_rules"
      (Json.asList Json.asString) [] = .ok s.enabledRules :=
    Json.Record.optional_eq_ok (by rw [get?_fields h hfields (by decide)]; simp)
      (Json.asList_ofStrings _) List.isEmpty_iff.1
  have hseverity : Json.Record.optional ⟨fields, .missing⟩ "severity"
      (Json.asMap Severity.ofJson) .empty = .ok s.severity :=
    Json.Record.optional_eq_ok (by rw [get?_fields h hfields (by decide)]; simp)
      (Json.asMap_ofMap s.severity fun _ v _ => v.ofJson_toJson) s.severity.isEmpty_iff.1
  have hrules : Json.Record.optional ⟨fields, .missing⟩ "rules"
      (Json.asMap RuleEntry.ofJson) .empty = .ok s.rules :=
    Json.Record.optional_eq_ok (by rw [get?_fields h hfields (by decide)]; simp)
      (Json.asMap_ofMap s.rules fun _ e _ => e.ofJson_toJson) s.rules.isEmpty_iff.1
  rw [hfields, ofJson]
  simp only [hdisabled, henabled, hseverity, hrules, flagFields_fields h hfields,
    SortedMap.ofList_entries]
  rfl

end CategorySection

/-! ### The sections of a configuration -/

namespace Configuration

/-- **The sections of a configuration are read back.** -/
theorem readSections_sectionsToJson (sections : SortedMap Category CategorySection)
    (h : ∀ c s, sections.get? c = some s → s.FlagsApart) :
    readSections (sectionsToJson sections) = sections := by
  have hentries := Json.filterMap_map_eq_self
    (fun entry : Category × CategorySection => (entry.1.name, entry.2.toJson)) readSection?
    sections.entries fun entry hentry => by
      have hget := (sections.mem_entries_iff entry.1 entry.2).1 hentry
      simp only [readSection?, Category.parse_name, CategorySection.ofJson_toJson (h _ _ hget)]
  rw [sectionsToJson, readSections, hentries, SortedMap.ofList_entries]

end Configuration

end Rulebook
