/-
**Configurations as structured values.**

Every setting may be left out.  Sections are read with leniency: an entry whose name is no category,
or whose value is no section, is left out of the configuration, and of two entries for one category
the later one counts.

Main definitions:

* `Rulebook.Configuration.ofJson`, `Rulebook.Configuration.toJson` — reading and writing;
* `Rulebook.CategorySection.ofJson`, `Rulebook.CategorySection.toJson` — the same for a section,
  whose switches stand beside its other fields;
* `Rulebook.Configuration.readSections` — the sections of a value.
-/

import Rulebook.Configuration.Basic
import Rulebook.Rule.Encoding

set_option autoImplicit false

namespace Rulebook

/-- The state as a value. -/
def RuleState.toJson (s : RuleState) : Json := .string s.name

/-- A state from a value. -/
def RuleState.ofJson : Json.Decoder RuleState := Json.asVariant all name

/-- The action as a value. -/
def Action.toJson (a : Action) : Json := .string a.name

/-- An action from a value. -/
def Action.ofJson : Json.Decoder Action := Json.asVariant all name

/-- A map as an object. -/
def Json.ofMap {α : Type} (value : α → Json) (m : SortedMap String α) : Json :=
  .object (m.entries.map fun entry => (entry.1, value entry.2))

/-- A field that is written unless its value is empty. -/
def Json.fieldUnless (isEmpty : Bool) (name : String) (value : Json) : Fields :=
  if isEmpty then [] else [(name, value)]

/-- A severity that is written only if it is there. -/
def Json.optionalSeverity (name : String) (value : Option Severity) : Fields :=
  match value with
  | some severity => [(name, severity.toJson)]
  | none => []

namespace RuleEntry

/-- A record as a value. -/
def toJson (e : RuleEntry) : Json :=
  .object ([("action", e.action.toJson)] ++ Json.optionalSeverity "severity" e.severity ++
    Json.optionalField "reason" e.reason)

/-- A record from a value. -/
def ofJson : Json.Decoder RuleEntry := fun value => do
  let r ← Json.Record.read "a rule record"
    [("action", Json.fits Action.ofJson),
     ("severity", Json.fits (Json.asOption Severity.ofJson)),
     ("reason", Json.fits (Json.asOption Json.asString))] value
  return {
    action := ← r.required "action" Action.ofJson
    severity := ← r.optional "severity" (Json.asOption Severity.ofJson) none
    reason := ← r.optional "reason" (Json.asOption Json.asString) none }

end RuleEntry

/-! ### Sections -/

namespace CategorySection

/-- The names of the fields that are not switches. -/
def fieldNames : List String := ["disabled_rules", "enabled_rules", "severity", "rules"]

/-- A section as a value. -/
def toJson (s : CategorySection) : Json :=
  .object (Json.fieldUnless s.disabledRules.isEmpty "disabled_rules"
      (Json.ofStrings s.disabledRules) ++
    Json.fieldUnless s.enabledRules.isEmpty "enabled_rules" (Json.ofStrings s.enabledRules) ++
    Json.fieldUnless s.severity.isEmpty "severity" (Json.ofMap Severity.toJson s.severity) ++
    Json.fieldUnless s.rules.isEmpty "rules" (Json.ofMap RuleEntry.toJson s.rules) ++
    s.flags.entries)

/-- The switches among the fields of a section. -/
def flagFields (fields : Fields) : Fields :=
  fields.filter fun field => !fieldNames.contains field.1

/-- A section from a value, which must be an object. -/
def ofJson : Json.Decoder CategorySection
  | .object fields => do
    let r : Json.Record := ⟨fields, .missing⟩
    return {
      disabledRules := ← r.optional "disabled_rules" (Json.asList Json.asString) []
      enabledRules := ← r.optional "enabled_rules" (Json.asList Json.asString) []
      severity := ← r.optional "severity" (Json.asMap Severity.ofJson) .empty
      rules := ← r.optional "rules" (Json.asMap RuleEntry.ofJson) .empty
      flags := .ofList (flagFields fields) }
  | other => .error (.type other "a map")

end CategorySection

/-! ### Configurations -/

namespace StaticAnalysis

/-- The tools as a value. -/
def toJson (s : StaticAnalysis) : Json :=
  .object [("clang_tidy", .bool s.clangTidy), ("cppcheck", .bool s.cppcheck),
    ("valgrind", .bool s.valgrind)]

/-- The tools from a value. -/
def ofJson : Json.Decoder StaticAnalysis := fun value => do
  let r ← Json.Record.read "struct StaticAnalysis"
    [("clang_tidy", Json.fits Json.asBool), ("cppcheck", Json.fits Json.asBool),
     ("valgrind", Json.fits Json.asBool)] value
  return {
    clangTidy := ← r.optional "clang_tidy" Json.asBool false
    cppcheck := ← r.optional "cppcheck" Json.asBool false
    valgrind := ← r.optional "valgrind" Json.asBool false }

end StaticAnalysis

namespace Configuration

/-- The section of an entry, if its name is a category and its value a section. -/
def readSection? (entry : String × Json) : Option (Category × CategorySection) :=
  match Category.parse entry.1.toList, CategorySection.ofJson entry.2 with
  | .ok category, .ok body => some (category, body)
  | _, _ => none

/-- The sections of a value; a value that is not an object has none. -/
def readSections : Json → SortedMap Category CategorySection
  | .object entries => .ofList (entries.filterMap readSection?)
  | _ => .empty

/-- The sections as a value. -/
def sectionsToJson (sections : SortedMap Category CategorySection) : Json :=
  .object (sections.entries.map fun entry => (entry.1.name, entry.2.toJson))

/-- A configuration as a value. -/
def toJson (config : Configuration) : Json :=
  .object ([("version", .string config.version),
    ("categories", .array (config.categories.map Category.toJson)),
    ("c_standard", .string config.languageStandard),
    ("universal_rules", Json.ofMap RuleState.toJson config.universalRules),
    ("category_overrides", sectionsToJson config.sections),
    ("static_analysis", config.staticAnalysis.toJson)] ++
    Json.optionalField "custom_rules" config.customRules)

/-- A configuration from a value. -/
def ofJson : Json.Decoder Configuration := fun value => do
  let r ← Json.Record.read "struct Configuration"
    [("version", Json.fits Json.asString),
     ("categories", Json.fits (Json.asList Category.ofJson)),
     ("c_standard", Json.fits Json.asString),
     ("universal_rules", Json.fits (Json.asMap RuleState.ofJson)),
     ("category_overrides", Json.fits Json.asAny),
     ("static_analysis", Json.fits StaticAnalysis.ofJson),
     ("custom_rules", Json.fits (Json.asOption Json.asString))] value
  return {
    version := ← r.optional "version" Json.asString standard.version
    categories := ← r.optional "categories" (Json.asList Category.ofJson) standard.categories
    languageStandard := ← r.optional "c_standard" Json.asString standard.languageStandard
    universalRules := ← r.optional "universal_rules" (Json.asMap RuleState.ofJson) .empty
    sections := ← r.optional "category_overrides" (fun v => .ok (readSections v)) .empty
    staticAnalysis := ← r.optional "static_analysis" StaticAnalysis.ofJson .none
    customRules := ← r.optional "custom_rules" (Json.asOption Json.asString) none }

end Configuration

end Rulebook
