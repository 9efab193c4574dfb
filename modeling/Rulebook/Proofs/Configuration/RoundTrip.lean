/-
**What is written is read back.**

A configuration that was read from a value, in whatever form, is written in one form and read back
from it.  Sections are what needs care: their switches share an object with their other fields, their
names are read in any case and written in lower case, and what is empty or absent is not written.
It comes out right because a configuration that was read has no switch with the name of another
field.  Rules and overrides are read back whatever they are.

Main results:

* `Rulebook.Override.ofJson_toJson` — overrides are read back;
* `Rulebook.Configuration.ofJson_toJson` — so are configurations whose switches are apart;
* `Rulebook.Configuration.written_read_back` — **so are configurations that were read**, rules and
  overrides.
-/

import Rulebook.Override.Encoding
import Rulebook.Proofs.Configuration.Sections
import Rulebook.Proofs.Rule.Encoding

set_option autoImplicit false

namespace Rulebook

/-! ### Overrides -/

@[simp] theorem Origin.ofJson_toJson (o : Origin) : ofJson o.toJson = .ok o := by
  cases o <;> rfl

/-- A severity that may be absent is read back. -/
theorem Severity.asOption_toJson (s : Severity) :
    Json.asOption ofJson s.toJson = .ok (some s) := by
  cases s <;> rfl

/-- **Overrides are read back.** -/
@[simp] theorem Override.ofJson_toJson (o : Override) : ofJson o.toJson = .ok o := by
  obtain ⟨ruleId, category, action, newSeverity, reason, appliedBy⟩ := o
  rw [toJson, ofJson, Json.Record.read_object]
  · cases newSeverity <;>
      simp [Json.Record.required, Json.Record.optional, Fields.get?_cons, Json.optionalSeverity,
        Json.asString, Severity.asOption_toJson, bind, Except.bind, pure, Except.pure]
  · cases newSeverity <;>
      simp [List.lookup_cons, Json.optionalSeverity, Json.asString, Severity.asOption_toJson]

/-! ### Configurations -/

namespace Configuration

/-- **Configurations whose switches are apart are read back.** -/
theorem ofJson_toJson {config : Configuration}
    (h : ∀ c s, config.sections.get? c = some s → s.FlagsApart) :
    ofJson config.toJson = .ok config := by
  obtain ⟨version, categories, languageStandard, universalRules, sections, staticAnalysis,
    customRules⟩ := config
  have hcategories := Category.asList_map_toJson categories
  have huniversal : Json.asMap RuleState.ofJson (Json.ofMap RuleState.toJson universalRules) =
      .ok universalRules := Json.asMap_ofMap universalRules fun _ s _ => s.ofJson_toJson
  have hsections := readSections_sectionsToJson sections h
  have hanalysis : StaticAnalysis.ofJson staticAnalysis.toJson = .ok staticAnalysis := rfl
  rw [toJson, ofJson, Json.Record.read_object]
  · cases customRules <;>
      simp [Json.Record.optional, Fields.get?_cons, Json.optionalField, Json.asString,
        Json.asOption, Except.map, hcategories, huniversal, hsections, hanalysis, bind, Except.bind,
        pure, Except.pure]
  · cases customRules <;>
      simp [List.lookup_cons, Json.optionalField, Json.asString, Json.asOption, Json.asAny,
        Except.map, hcategories, huniversal, hanalysis]

/-- **What is written is read back**: a configuration that was read from any value, every rule and
every override.  So what is written of what was read back is the same again. -/
theorem written_read_back :
    (∀ value config, ofJson value = .ok config →
      ofJson config.toJson = .ok config ∧
        (ofJson config.toJson).map toJson = .ok config.toJson) ∧
    (∀ rule : Rule, Rule.ofJson rule.toJson = .ok rule ∧
      (Rule.ofJson rule.toJson).map Rule.toJson = .ok rule.toJson) ∧
    ∀ o : Override, Override.ofJson o.toJson = .ok o ∧
      (Override.ofJson o.toJson).map Override.toJson = .ok o.toJson := by
  refine ⟨fun value config hread => ?_, fun rule => ?_, fun o => ?_⟩
  · have hback : ofJson config.toJson = .ok config :=
      ofJson_toJson fun _ _ hget => flagsApart_of_ofJson hread hget
    exact ⟨hback, congrArg (Except.map toJson) hback⟩
  · exact ⟨rule.ofJson_toJson, congrArg (Except.map Rule.toJson) rule.ofJson_toJson⟩
  · exact ⟨o.ofJson_toJson, congrArg (Except.map Override.toJson) o.ofJson_toJson⟩

/-- Settings with a section whose name is spelled in another way, with a switch and an empty list,
and without custom rules. -/
def spelledSettings : Json :=
  .object [("category_overrides", .object [(" Embedded ", .object
      [("allow_dynamic_allocation", .bool true), ("disabled_rules", .array [])])]),
    ("custom_rules", .null)]

/-- They are read back from what is written for them, with their switch. -/
theorem spelledSettings_read_back :
    ∃ config, ofJson spelledSettings = .ok config ∧ ofJson config.toJson = .ok config ∧
      (config.sections.get? .embedded).map (fun s => s.flags.entries.map Prod.fst) =
        some ["allow_dynamic_allocation"] := by
  have hread : (ofJson spelledSettings).isOk = true := by decide +kernel
  have hflags : ((ofJson spelledSettings).toOption.bind fun config =>
      (config.sections.get? .embedded).map fun s => s.flags.entries.map Prod.fst) =
        some ["allow_dynamic_allocation"] := by decide +kernel
  cases hconfig : ofJson spelledSettings with
  | error fault =>
      rw [hconfig] at hread
      cases hread
  | ok config =>
      rw [hconfig] at hflags
      exact ⟨config, rfl, (written_read_back.1 spelledSettings config hconfig).1, hflags⟩

end Configuration

end Rulebook
