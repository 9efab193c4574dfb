/-
**Overrides as structured values.**

Main definitions:

* `Rulebook.Override.toJson`, `Rulebook.Override.ofJson` — writing an override and reading one.
-/

import Rulebook.Configuration.Encoding
import Rulebook.Override.Basic

set_option autoImplicit false

namespace Rulebook

/-- The origin as a value. -/
def Origin.toJson (o : Origin) : Json := .string o.name

/-- An origin from a value. -/
def Origin.ofJson : Json.Decoder Origin := Json.asVariant all name

namespace Override

/-- An override as a value. -/
def toJson (o : Override) : Json :=
  .object ([("rule_id", .string o.ruleId), ("category", o.category.toJson),
    ("action", o.action.toJson)] ++ Json.optionalSeverity "new_severity" o.newSeverity ++
    [("reason", .string o.reason), ("applied_by", o.appliedBy.toJson)])

/-- An override from a value. -/
def ofJson : Json.Decoder Override := fun value => do
  let r ← Json.Record.read "struct Override"
    [("rule_id", Json.fits Json.asString), ("category", Json.fits Category.ofJson),
     ("action", Json.fits Action.ofJson),
     ("new_severity", Json.fits (Json.asOption Severity.ofJson)),
     ("reason", Json.fits Json.asString), ("applied_by", Json.fits Origin.ofJson)] value
  return {
    ruleId := ← r.required "rule_id" Json.asString
    category := ← r.required "category" Category.ofJson
    action := ← r.required "action" Action.ofJson
    newSeverity := ← r.optional "new_severity" (Json.asOption Severity.ofJson) none
    reason := ← r.required "reason" Json.asString
    appliedBy := ← r.required "applied_by" Origin.ofJson }

end Override

end Rulebook
