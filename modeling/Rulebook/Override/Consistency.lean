/-
**Contradictions among overrides.**

In a group of overrides the last one counts.  If the others say something different the group is
in contradiction: it enables and disables its rule, or it gives the rule several severities.  A
group that says the same thing several times, or whose rule is not in the registry, is worth a
warning.

Main definitions:

* `Rulebook.Overrides.GroupFault`, `Rulebook.Overrides.groupFault?` — what is wrong with a group;
* `Rulebook.Overrides.Assessment`, `Rulebook.Overrides.assess` — the errors and the warnings of a
  collection.
-/

import Rulebook.Override.Collection
import Rulebook.Registry.Basic
import Rulebook.Text.Page

set_option autoImplicit false

namespace Rulebook.Overrides

/-- What is wrong with a group of overrides. -/
inductive GroupFault where
  /-- It enables its rule and disables it. -/
  | opposed
  /-- It gives its rule several severities. -/
  | severities (found : List Severity)
  /-- It holds several overrides that agree. -/
  | repeated (count : Nat)
  deriving DecidableEq, Repr

/-- Whether a group has an override with an action. -/
def hasAction (group : List Override) (action : Action) : Bool :=
  group.any fun o => o.action == action

/-- The severity that an override gives. -/
def givenSeverity? (o : Override) : Option Severity :=
  if o.action = .changeSeverity then o.newSeverity else none

/-- The severities that a group gives, each once, in the order of their first occurrence. -/
def givenSeverities (group : List Override) : List Severity :=
  (group.filterMap givenSeverity?).eraseDups

/-- What is wrong with a group. -/
def groupFault? (group : List Override) : Option GroupFault :=
  if group.length ≤ 1 then none
  else if hasAction group .enable && hasAction group .disable then some .opposed
  else if 1 < (givenSeverities group).length then some (.severities (givenSeverities group))
  else some (.repeated group.length)

/-- The error of a group, if it is in contradiction. -/
def groupError? (key : String) (group : List Override) : Option String :=
  match groupFault? group with
  | some .opposed => some ("conflicting overrides for " ++ key ++ ": both enable and disable")
  | some (.severities found) =>
    some ("conflicting overrides for " ++ key ++ ": multiple severities (" ++
      Text.commaList (found.map Severity.name) ++ ")")
  | _ => none

/-- The warning of a group that repeats itself. -/
def repetitionWarning (key : String) (group : List Override) : List String :=
  match groupFault? group with
  | some (.repeated count) => [toString count ++ " overrides for " ++ key ++ "; the last one wins"]
  | _ => []

/-- The warning of a group whose rule is not in the registry. -/
def unknownWarning (registry : Registry) (group : List Override) : List String :=
  match group with
  | [] => []
  | first :: _ =>
    if (registry.get? first.ruleId).isSome then []
    else ["override for unknown rule `" ++ first.ruleId ++ "` (" ++ first.category.name ++ ")"]

/-- The errors and the warnings of a collection. -/
structure Assessment where
  /-- The errors. -/
  errors : List String
  /-- The warnings. -/
  warnings : List String
  deriving DecidableEq, Repr

/-- Whether there are no errors. -/
def Assessment.isValid (a : Assessment) : Bool := a.errors.isEmpty

/-- The errors and the warnings of a collection, for a registry. -/
def assess (os : Overrides) (registry : Registry) : Assessment where
  errors := os.groups.entries.filterMap fun entry => groupError? entry.1 entry.2
  warnings := os.groups.entries.flatMap fun entry =>
    repetitionWarning entry.1 entry.2 ++ unknownWarning registry entry.2

end Rulebook.Overrides
