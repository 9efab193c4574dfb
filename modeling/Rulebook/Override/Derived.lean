/-
**Overrides of a configuration.**

What a configuration says about rules amounts to a list of overrides: first those of the states of
universal rules, by key, and then those of each section, in the order of the categories.  Inside of
a section the lists of disabled and enabled rules come first, then the severities, the records, and
the switches that have a meaning.

Main definitions:

* `Rulebook.Switch`, `Rulebook.Switch.known` — the switches that have a meaning;
* `Rulebook.CategorySection.overrides` — the overrides of a section;
* `Rulebook.Configuration.overrides` — the overrides of a configuration;
* `Rulebook.Configuration.isRuleEnabled` — whether a rule is in force for a list of categories.
-/

import Rulebook.Override.Basic

set_option autoImplicit false

namespace Rulebook

/-! ### Switches -/

/-- A switch of a category and the override that it stands for. -/
structure Switch where
  /-- The category in whose section the switch has its meaning. -/
  category : Category
  /-- The name of the switch. -/
  flag : String
  /-- The rule that it changes. -/
  ruleId : String
  /-- What it does to the rule. -/
  action : Action
  /-- The severity that it gives. -/
  severity : Option Severity
  deriving DecidableEq, Repr

namespace Switch

/-- The switches that have a meaning. -/
def known : List Switch := [
  ⟨.embedded, "allow_dynamic_allocation", "embedded-no-dynamic-memory", .disable, none⟩,
  ⟨.kernel, "allow_floating_point", "kernel-no-floating-point", .disable, none⟩,
  ⟨.realtime, "allow_blocking_calls", "realtime-no-blocking", .disable, none⟩,
  ⟨.legacy, "strict_modern_c", "legacy-compat-shims", .changeSeverity, some .error⟩]

/-- The switch of a category with a name. -/
def find? (category : Category) (flag : String) : Option Switch :=
  known.find? fun s => s.category == category && s.flag == flag

end Switch

/-! ### Sections -/

namespace CategorySection

/-- The override of a rule in a list of disabled rules. -/
def disabling (category : Category) (ruleId : String) : Override :=
  ⟨ruleId, category, .disable, none, "disabled for " ++ category.name, .category⟩

/-- The override of a rule in a list of enabled rules. -/
def enabling (category : Category) (ruleId : String) : Override :=
  ⟨ruleId, category, .enable, none, "enabled for " ++ category.name, .category⟩

/-- The override of a severity. -/
def grading (category : Category) (entry : String × Severity) : Override :=
  ⟨entry.1, category, .changeSeverity, some entry.2,
    "severity set to " ++ entry.2.name ++ " for " ++ category.name, .category⟩

/-- The override of a record. -/
def recorded (category : Category) (entry : String × RuleEntry) : Override :=
  ⟨entry.1, category, entry.2.action, entry.2.severity,
    entry.2.reason.getD (entry.2.action.name ++ " for " ++ category.name), .category⟩

/-- The override of a switch; it has one if it is known and its value is true. -/
def switched? (category : Category) (flag : String × Json) : Option Override :=
  match Switch.find? category flag.1, flag.2 with
  | some s, .bool true =>
    some ⟨s.ruleId, category, s.action, s.severity,
      "`" ++ flag.1 ++ "` is set for " ++ category.name, .category⟩
  | _, _ => none

/-- The overrides of a section. -/
def overrides (category : Category) (s : CategorySection) : List Override :=
  s.disabledRules.map (disabling category) ++ s.enabledRules.map (enabling category) ++
    s.severity.entries.map (grading category) ++ s.rules.entries.map (recorded category) ++
    s.flags.entries.filterMap (switched? category)

end CategorySection

/-! ### Configurations -/

namespace Configuration

/-- What a universal rule's id begins with. -/
def universalScope : String := "universal-"

/-- The reason of the override of a state. -/
def stateReason (key : String) (state : RuleState) : String :=
  "universal rule `" ++ key ++ "` is " ++ state.name ++ " in configuration"

/-- The override of the state of a universal rule; a rule in force needs none. -/
def stateOverride? (entry : String × RuleState) : Option Override :=
  match entry.2 with
  | .enabled => none
  | .warning =>
    some ⟨universalScope ++ entry.1, .universal, .changeSeverity, some .warning,
      stateReason entry.1 .warning, .user⟩
  | .disabled =>
    some ⟨universalScope ++ entry.1, .universal, .disable, none, stateReason entry.1 .disabled,
      .user⟩

/-- The overrides of a configuration. -/
def overrides (config : Configuration) : List Override :=
  config.universalRules.entries.filterMap stateOverride? ++
    config.sections.entries.flatMap fun entry => entry.2.overrides entry.1

end Configuration

/-! ### Rules in force -/

/-- The order in which categories take their turn: the universal one first, then the others as
they are listed. -/
def layers (categories : List Category) : List Category :=
  .universal :: categories.filter (· ≠ .universal)

/-- Whether a rule is in force after an override, if `enabled` says whether it was before. -/
def Override.switches (enabled : Bool) (o : Override) : Bool :=
  match o.action with
  | .disable => false
  | .enable => true
  | .changeSeverity => enabled

/-- Whether a rule is in force for a list of categories, as far as the configuration tells. -/
def Configuration.isRuleEnabled (config : Configuration) (ruleId : String)
    (categories : List Category) : Bool :=
  let relevant := (layers categories).flatMap fun category =>
    config.overrides.filter fun o => o.category == category && o.ruleId == ruleId
  relevant.foldl Override.switches true

end Rulebook
