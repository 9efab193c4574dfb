/-
**Overrides as settings.**

A collection of overrides can be written as part of a configuration.  Each group is reduced to its
net effect, the state and the severity that it leaves; what it leaves for a universal rule is
written as a state where a state can say it, and everything else goes to a section.

Main definitions:

* `Rulebook.Override.NetEffect`, `Rulebook.Override.netEffect` — what a group of overrides leaves;
* `Rulebook.Fragment`, `Rulebook.Overrides.fragment` — the part of a configuration that has the
  effect of a collection;
* `Rulebook.Fragment.toJson` — the part as a value.
-/

import Rulebook.Configuration.Encoding
import Rulebook.Override.Collection

set_option autoImplicit false

namespace Rulebook

/-! ### Net effects -/

/-- What overrides leave of a rule's state and severity. -/
structure Override.NetEffect where
  /-- The state, if they set one. -/
  enabled : Option Bool
  /-- The severity, if they give one. -/
  severity : Option Severity
  deriving DecidableEq, Repr

namespace Override

/-- What is left after one more override. -/
def NetEffect.after (effect : NetEffect) (o : Override) : NetEffect :=
  match o.action with
  | .disable => { effect with enabled := some false }
  | .enable => { effect with enabled := some true }
  | .changeSeverity => { effect with severity := o.newSeverity.or effect.severity }

/-- What a list of overrides leaves. -/
def netEffect (os : List Override) : NetEffect := os.foldl NetEffect.after ⟨none, none⟩

end Override

/-! ### Fragments -/

/-- A part of a configuration. -/
structure Fragment where
  /-- The states of universal rules, by id without the scope. -/
  universalRules : SortedMap String RuleState
  /-- The sections. -/
  sections : SortedMap Category CategorySection

namespace Fragment

/-- Nothing. -/
def empty : Fragment := ⟨.empty, .empty⟩

/-- The section of a category, or an empty one. -/
def sectionOf (fragment : Fragment) (category : Category) : CategorySection :=
  (fragment.sections.get? category).getD .empty

/-- The state that says the most of a net effect. -/
def stateOf (effect : Override.NetEffect) : RuleState :=
  match effect.enabled, effect.severity with
  | some false, _ => .disabled
  | _, some .warning => .warning
  | _, _ => .enabled

/-- The id of a universal rule without its scope. -/
def universalKey? (ruleId : String) : Option String :=
  (Configuration.universalScope.toList.isPrefixOf? ruleId.toList).map String.ofList

/-- What a section says about a universal rule beside its state. -/
def supplement (ruleId : String) (effect : Override.NetEffect) (s : CategorySection) :
    CategorySection :=
  let listed :=
    if effect.enabled = some true then { s with enabledRules := s.enabledRules ++ [ruleId] } else s
  match effect.severity with
  | some severity =>
    if stateOf effect = .warning then listed
    else { listed with severity := listed.severity.insert ruleId severity }
  | none => listed

/-- Adds what is left of a universal rule. -/
def addUniversal (fragment : Fragment) (key ruleId : String) (effect : Override.NetEffect) :
    Fragment :=
  let added := supplement ruleId effect (fragment.sectionOf .universal)
  { universalRules := fragment.universalRules.insert key (stateOf effect)
    sections :=
      if added.isEmpty then fragment.sections.erase .universal
      else fragment.sections.insert .universal added }

/-- What a section says about a rule. -/
def record (ruleId reason : String) (effect : Override.NetEffect) (s : CategorySection) :
    CategorySection :=
  match effect.enabled, effect.severity with
  | none, none => s
  | none, some severity =>
    { s with rules := s.rules.insert ruleId ⟨.changeSeverity, some severity, some reason⟩ }
  | some enabled, severity =>
    let action := if enabled then .enable else .disable
    let recorded := { s with rules := s.rules.insert ruleId ⟨action, none, some reason⟩ }
    match severity with
    | some severity =>
      { recorded with severity := recorded.severity.insert ruleId severity }
    | none => recorded

/-- Adds what is left of any other rule. -/
def addRecord (fragment : Fragment) (last : Override) (effect : Override.NetEffect) : Fragment :=
  { fragment with
    sections := fragment.sections.insert last.category
      (record last.ruleId last.reason effect (fragment.sectionOf last.category)) }

/-- Adds the net effect of a group. -/
def addGroup (fragment : Fragment) (group : List Override) : Fragment :=
  match group.getLast? with
  | none => fragment
  | some last =>
    let effect := Override.netEffect group
    match if last.category = .universal then universalKey? last.ruleId else none with
    | some key => fragment.addUniversal key last.ruleId effect
    | none => fragment.addRecord last effect

/-- The part of a configuration as a value, without what is empty. -/
def toJson (fragment : Fragment) : Json :=
  .object (Json.fieldUnless fragment.universalRules.isEmpty "universal_rules"
      (Json.ofMap RuleState.toJson fragment.universalRules) ++
    Json.fieldUnless fragment.sections.isEmpty "category_overrides"
      (Configuration.sectionsToJson fragment.sections))

end Fragment

/-- The part of a configuration that has the effect of a collection. -/
def Overrides.fragment (os : Overrides) : Fragment :=
  os.groups.values.foldl Fragment.addGroup .empty

/-- The collection that is read back from what was written. -/
def Overrides.reread (os : Overrides) : Except Json.Mismatch Overrides :=
  (Configuration.ofJson os.fragment.toJson).map Overrides.ofConfiguration

end Rulebook
