/-
**Configurations.**

A project says which categories it belongs to, and how the rules are to be adjusted: universal
rules by a state, and the rules of each category by a section.

Main definitions:

* `Rulebook.RuleState` — the states of a universal rule;
* `Rulebook.Action`, `Rulebook.RuleEntry` — what is done to a rule, and the record of it;
* `Rulebook.CategorySection` — the adjustments of one category;
* `Rulebook.Configuration`, `Rulebook.Configuration.standard` — the settings of a project, and the
  settings of a project that has none;
* `Rulebook.Configuration.universalRuleState` — the state of a universal rule.
-/

import Rulebook.Category
import Rulebook.Json.Basic
import Rulebook.Severity
import Rulebook.SortedMap

set_option autoImplicit false

namespace Rulebook

/-! ### States and actions -/

/-- The state of a universal rule. -/
inductive RuleState where
  /-- In force, as the rule says. -/
  | enabled
  /-- In force as a warning. -/
  | warning
  /-- Not in force. -/
  | disabled
  deriving DecidableEq, Repr

namespace RuleState

/-- The states. -/
def all : List RuleState := [.enabled, .warning, .disabled]

/-- The name of a state. -/
def name : RuleState → String
  | .enabled => "enabled"
  | .warning => "warning"
  | .disabled => "disabled"

end RuleState

/-- What is done to a rule. -/
inductive Action where
  /-- It is put out of force. -/
  | disable
  /-- It is put in force. -/
  | enable
  /-- It is given another severity. -/
  | changeSeverity
  deriving DecidableEq, Repr

namespace Action

/-- The actions. -/
def all : List Action := [.disable, .enable, .changeSeverity]

/-- The name of an action. -/
def name : Action → String
  | .disable => "disable"
  | .enable => "enable"
  | .changeSeverity => "change_severity"

end Action

/-! ### Sections -/

/-- The record of what is done to a rule. -/
structure RuleEntry where
  /-- What is done. -/
  action : Action
  /-- The severity given, if one is. -/
  severity : Option Severity
  /-- Why it is done. -/
  reason : Option String
  deriving DecidableEq, Repr

/-- The adjustments of the rules of one category. -/
structure CategorySection where
  /-- The ids of rules to put out of force. -/
  disabledRules : List String
  /-- The ids of rules to put in force. -/
  enabledRules : List String
  /-- Severities by the id of a rule. -/
  severity : SortedMap String Severity
  /-- Records by the id of a rule. -/
  rules : SortedMap String RuleEntry
  /-- Switches by name. -/
  flags : SortedMap String Json

namespace CategorySection

/-- The section without adjustments. -/
def empty : CategorySection := ⟨[], [], .empty, .empty, .empty⟩

/-- Whether a section has no adjustments. -/
def isEmpty (s : CategorySection) : Bool :=
  s.disabledRules.isEmpty && s.enabledRules.isEmpty && s.severity.isEmpty && s.rules.isEmpty &&
    s.flags.isEmpty

end CategorySection

/-! ### Configurations -/

/-- The tools that check a project. -/
structure StaticAnalysis where
  /-- The linter. -/
  clangTidy : Bool
  /-- The bug finder. -/
  cppcheck : Bool
  /-- The memory checker. -/
  valgrind : Bool
  deriving DecidableEq, Repr

namespace StaticAnalysis

/-- No tools. -/
def none : StaticAnalysis := ⟨false, false, false⟩

end StaticAnalysis

/-- The settings of a project. -/
structure Configuration where
  /-- The version of the settings. -/
  version : String
  /-- The categories that the project belongs to. -/
  categories : List Category
  /-- The language standard that the project is written in. -/
  languageStandard : String
  /-- The states of universal rules, by id without the scope. -/
  universalRules : SortedMap String RuleState
  /-- The sections. -/
  sections : SortedMap Category CategorySection
  /-- The tools. -/
  staticAnalysis : StaticAnalysis
  /-- The pattern of the paths of further rule documents. -/
  customRules : Option String

namespace Configuration

/-- The settings of a project that has none of its own. -/
def standard : Configuration where
  version := "1.0.0"
  categories := [.systems]
  languageStandard := "c11"
  universalRules := .empty
  sections := .empty
  staticAnalysis := .none
  customRules := none

/-- The state of a universal rule; those that are not mentioned are in force. -/
def universalRuleState (config : Configuration) (key : String) : RuleState :=
  (config.universalRules.get? key).getD .enabled

end Configuration

end Rulebook
