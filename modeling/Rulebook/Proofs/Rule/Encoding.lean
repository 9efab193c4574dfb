/-
**Reading rules that were written.**

A rule is written with all its fields but the absent ones, and what is absent is read as absent.  So
a rule is read back from what was written of it, and so are its samples.

Main results:

* `Rulebook.Example.ofJson_toJson`, `Rulebook.Examples.ofJson_toJson` — samples are read back;
* `Rulebook.Rule.ofJson_toJson` — **rules are read back**.
-/

import Rulebook.Proofs.Configuration.Decoding
import Rulebook.Proofs.Json.Record

set_option autoImplicit false

namespace Rulebook

@[simp] theorem Category.ofJson_toJson (c : Category) : ofJson c.toJson = .ok c := by
  cases c <;> rfl

/-- A list of categories is read back. -/
theorem Category.asList_map_toJson (categories : List Category) :
    Json.asList ofJson (.array (categories.map toJson)) = .ok categories :=
  Json.mapM_map_eq_ok categories fun c _ => c.ofJson_toJson

/-! ### Samples -/

@[simp] theorem Example.ofJson_toJson (e : Example) : ofJson e.toJson = .ok e := by
  obtain ⟨language, code, explanation⟩ := e
  cases language <;> cases explanation <;> rfl

@[simp] theorem Examples.ofJson_toJson (e : Examples) : ofJson e.toJson = .ok e := by
  have hlist (samples : List Example) :
      Json.asList Example.ofJson (.array (samples.map Example.toJson)) = .ok samples :=
    Json.mapM_map_eq_ok samples fun sample _ => sample.ofJson_toJson
  rw [toJson, ofJson, Json.Record.read_object]
  · simp [Json.Record.optional, Fields.get?_cons, hlist, bind, Except.bind, pure, Except.pure]
  · simp [List.lookup_cons, hlist]

/-! ### Rules -/

/-- **Rules are read back.** -/
@[simp] theorem Rule.ofJson_toJson (rule : Rule) : ofJson rule.toJson = .ok rule := by
  obtain ⟨id, name, description, rationale, categories, severity, enabled, examples, standard,
    source⟩ := rule
  have hcategories := Category.asList_map_toJson categories
  rw [toJson, ofJson, Json.Record.read_object]
  · cases standard <;> cases source <;>
      simp [Json.Record.required, Json.Record.optional, Fields.get?_cons, Json.optionalField,
        Json.asString, Json.asBool, Json.asPath, Json.asOption, Except.map, hcategories, bind,
        Except.bind, pure, Except.pure]
  · cases standard <;> cases source <;>
      simp [List.lookup_cons, Json.optionalField, Json.asString, Json.asBool, Json.asPath,
        Json.asOption, Except.map, hcategories]

end Rulebook
