/-
**Sections are read with leniency.**

Nothing that is written for the sections of a configuration can keep it from being read.  The field
of the sections is looked at for itself: the other settings come out as if it were not there, and a
value that is no object has no sections.  Inside an object an entry whose name is no category, or
whose value is no section at whatever depth, is of no consequence, neither for the sections beside
it nor for another section of the same category.

Main definitions:

* `Rulebook.Configuration.ofJsonWith` — a configuration from the fields of an object and the value
  of its field of sections;
* `Rulebook.Configuration.Malformed` — an entry whose name is no category or whose value is no
  section.

Main results:

* `Rulebook.Configuration.ofJsonWith_eq` — the sections have no effect on the other settings;
* `Rulebook.Configuration.readSections_malformed` — an entry that is malformed has none on the other
  entries;
* `Rulebook.Configuration.malformed_contained` — **so what is malformed is contained**.
-/

import Rulebook.Proofs.Configuration.Sections

set_option autoImplicit false

namespace Rulebook.Configuration

/-- The configuration of the fields of an object and a value for its field of sections. -/
def ofJsonWith (fields : Fields) (v : Json) : Except Json.Mismatch Configuration :=
  ofJson (.object (Fields.set "category_overrides" v fields))

/-- An entry whose name is no category or whose value is no section. -/
def Malformed (key : String) (value : Json) : Prop :=
  (∀ c, Category.parse key.toList ≠ .ok c) ∨ ∀ s, CategorySection.ofJson value ≠ .ok s

/-! ### The other settings -/

/-- **The sections have no effect on the other settings**, nor on whether there are any. -/
theorem ofJsonWith_eq (fields : Fields) (v : Json) :
    ofJsonWith fields v =
      (ofJson (.object (fields.without "category_overrides"))).map fun config =>
        { config with sections := readSections v } := by
  have hother {α : Type} (name : String) (read : Json.Decoder α) (default : α)
      (hname : "category_overrides" ≠ name) :
      Json.Record.optional ⟨Fields.set "category_overrides" v fields, .missing⟩ name read default =
        Json.Record.optional ⟨fields.without "category_overrides", .missing⟩ name read default := by
    simp only [Json.Record.optional, Fields.get?_set, Fields.get?_without, hname, if_false]
  have hwritten : Json.Record.optional ⟨Fields.set "category_overrides" v fields, .missing⟩
      "category_overrides" (fun v => .ok (readSections v)) .empty = .ok (readSections v) := by
    simp [Json.Record.optional, Fields.get?_set]
  have habsent : Json.Record.optional ⟨fields.without "category_overrides", .missing⟩
      "category_overrides" (fun v => .ok (readSections v)) .empty = .ok .empty := by
    simp [Json.Record.optional, Fields.get?_without]
  -- Any value of the field fits, so that the others decide whether the fields fit.
  rw [ofJsonWith, ofJson, ofJson, Json.Record.read, Json.Record.read, Json.checkFields_set (by
    intro check hcheck value
    cases hcheck
    rfl)]
  cases Json.checkFields _ (fields.without "category_overrides") with
  | error fault => rfl
  | ok _ =>
      show (Json.Record.optional _ _ _ _ >>= _) = (_ <$> (Json.Record.optional _ _ _ _ >>= _))
      rw [hother "version" _ _ (by decide), hother "categories" _ _ (by decide),
        hother "c_standard" _ _ (by decide), hother "universal_rules" _ _ (by decide),
        hother "static_analysis" _ _ (by decide), hother "custom_rules" _ _ (by decide), hwritten,
        habsent]
      simp only [map_bind, map_pure]
      rfl

/-! ### The other entries -/

theorem readSection?_eq_none_iff {entry : String × Json} :
    readSection? entry = none ↔ Malformed entry.1 entry.2 := by
  rw [Option.eq_none_iff_forall_ne_some]
  constructor
  · intro h
    by_cases hcategory : ∃ c, Category.parse entry.1.toList = .ok c
    · obtain ⟨c, hcategory⟩ := hcategory
      refine .inr fun s hsection => h (c, s) (readSection?_eq_some_iff.mpr ⟨hcategory, hsection⟩)
    · exact .inl (not_exists.mp hcategory)
  · rintro h ⟨c, s⟩ hread
    obtain ⟨hcategory, hsection⟩ := readSection?_eq_some_iff.mp hread
    exact h.elim (fun hno => hno c hcategory) fun hno => hno s hsection

/-- **An entry that is malformed has no effect on the other entries.** -/
theorem readSections_malformed {key : String} {value : Json} (h : Malformed key value)
    (before after : Fields) :
    readSections (.object (before ++ (key, value) :: after)) =
      readSections (.object (before ++ after)) := by
  have hread : readSection? (key, value) = none := readSection?_eq_none_iff.mpr h
  rw [readSections_object, readSections_object, List.filterMap_append, List.filterMap_append,
    List.filterMap_cons_none hread]

/-- **What is malformed is contained.**  A configuration is read whatever value its field of
sections has if it is read without this field, and its other settings are the same.  A value that is
no object has no sections.  In an object, what is malformed can be left out, and replaced by
something else that is malformed, with no effect on the configuration at all. -/
theorem malformed_contained (fields : Fields) (v : Json) :
    ofJsonWith fields v =
        (ofJson (.object (fields.without "category_overrides"))).map (fun config =>
          { config with sections := readSections v }) ∧
      (v.isObject = false → readSections v = .empty) ∧
      ∀ before key bad after, v = .object (before ++ (key, bad) :: after) → Malformed key bad →
        ofJsonWith fields (.object (before ++ after)) = ofJsonWith fields v ∧
          ∀ other, Malformed key other →
            ofJsonWith fields (.object (before ++ (key, other) :: after)) = ofJsonWith fields v := by
  refine ⟨ofJsonWith_eq fields v, fun hv => ?_, ?_⟩
  · cases v with
    | object entries => cases hv
    | _ => rfl
  · rintro before key bad after rfl hbad
    refine ⟨?_, fun other hother => ?_⟩
    · rw [ofJsonWith_eq, ofJsonWith_eq, readSections_malformed hbad]
    · rw [ofJsonWith_eq, ofJsonWith_eq, readSections_malformed hbad, readSections_malformed hother]

/-- Three sections, of which two are spoilt: the name of one is no category, and the rules of the
other are no list. -/
def spoiltSections : Fields :=
  [("kernel", .object [("disabled_rules", .array [.string "kernel-a"])]),
    ("gui", .object []),
    ("Embedded", .object [("disabled_rules", .string "embedded-a")])]

/-- Without the last one, or with nothing as its value, they amount to the same settings, with a
single section. -/
theorem spoiltSections_contained :
    Malformed "Embedded" (.object [("disabled_rules", .string "embedded-a")]) ∧
      ofJsonWith [] (.object (spoiltSections.take 2)) = ofJsonWith [] (.object spoiltSections) ∧
      ofJsonWith [] (.object (spoiltSections.take 2 ++ [("Embedded", .null)])) =
        ofJsonWith [] (.object spoiltSections) ∧
      (ofJsonWith [] (.object spoiltSections)).toOption.map
        (fun config => config.sections.entries.map Prod.fst) = some [.kernel] := by
  have hlast : Malformed "Embedded" (.object [("disabled_rules", .string "embedded-a")]) := by
    refine .inr fun s hs => ?_
    cases hs
  have hnull : Malformed "Embedded" .null := by
    refine .inr fun s hs => ?_
    cases hs
  obtain ⟨-, -, h⟩ := malformed_contained [] (.object spoiltSections)
  obtain ⟨hleft, hreplaced⟩ := h (spoiltSections.take 2) _ _ [] rfl hlast
  exact ⟨hlast, hleft, hreplaced .null hnull, by decide +kernel⟩

end Rulebook.Configuration
