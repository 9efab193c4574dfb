/-
**Conflicts as structured values.**

Main definitions:

* `Rulebook.Conflict.toJson`, `Rulebook.Conflict.ofJson` — writing a conflict and reading one;
* `Rulebook.Resolution.toJson`, `Rulebook.Resolution.ofJson`, `Rulebook.Conflict.Entry.toJson`,
  `Rulebook.Conflict.Entry.ofJson` — the same for the way it is settled, and for both;
* `Rulebook.Conflict.Report.toJson` — writing a report.
-/

import Rulebook.Conflict.Scan
import Rulebook.Rule.Encoding

set_option autoImplicit false

namespace Rulebook

/-- A kind from a value. -/
def Conflict.Kind.ofJson : Json.Decoder Conflict.Kind := Json.asVariant all name

/-- A grade from a value. -/
def Conflict.Grade.ofJson : Json.Decoder Conflict.Grade := Json.asVariant all name

/-- An outcome from a value. -/
def Outcome.ofJson : Json.Decoder Outcome := Json.asVariant all name

namespace Resolution

/-- The way a conflict is settled as a value. -/
def toJson (r : Resolution) : Json :=
  .object ([("resolution", .string r.outcome.name), ("rationale", .string r.rationale)] ++
    Json.optionalField "applied_rule" r.appliedRule)

/-- The way a conflict is settled from a value. -/
def ofJson : Json.Decoder Resolution := fun value => do
  let r ← Json.Record.read "struct Resolution"
    [("resolution", Json.fits Outcome.ofJson), ("rationale", Json.fits Json.asString),
     ("applied_rule", Json.fits (Json.asOption Json.asString))] value
  return {
    outcome := ← r.required "resolution" Outcome.ofJson
    rationale := ← r.required "rationale" Json.asString
    appliedRule := ← r.optional "applied_rule" (Json.asOption Json.asString) none }

end Resolution

namespace Conflict

/-- A conflict as a value. -/
def toJson (c : Conflict) : Json :=
  .object [("type", .string c.kind.name), ("severity", .string c.grade.name),
    ("rule1", c.first.toJson), ("rule2", c.second.toJson),
    ("description", .string c.description), ("reason", .string c.reason),
    ("suggestion", .string c.suggestion)]

/-- A conflict from a value. -/
def ofJson : Json.Decoder Conflict := fun value => do
  let r ← Json.Record.read "struct Conflict"
    [("type", Json.fits Kind.ofJson), ("severity", Json.fits Grade.ofJson),
     ("rule1", Json.fits Rule.ofJson), ("rule2", Json.fits Rule.ofJson),
     ("description", Json.fits Json.asString), ("reason", Json.fits Json.asString),
     ("suggestion", Json.fits Json.asString)] value
  return {
    kind := ← r.required "type" Kind.ofJson
    grade := ← r.required "severity" Grade.ofJson
    first := ← r.required "rule1" Rule.ofJson
    second := ← r.required "rule2" Rule.ofJson
    description := ← r.required "description" Json.asString
    reason := ← r.required "reason" Json.asString
    suggestion := ← r.required "suggestion" Json.asString }

namespace Entry

/-- A conflict with the way it is settled as a value. -/
def toJson (e : Entry) : Json :=
  .object [("conflict", e.conflict.toJson), ("resolution", e.resolution.toJson)]

/-- A conflict with the way it is settled from a value. -/
def ofJson : Json.Decoder Entry := fun value => do
  let r ← Json.Record.read "struct ConflictEntry"
    [("conflict", Json.fits Conflict.ofJson), ("resolution", Json.fits Resolution.ofJson)] value
  return {
    conflict := ← r.required "conflict" Conflict.ofJson
    resolution := ← r.required "resolution" Resolution.ofJson }

end Entry

/-- Counts as an object. -/
def countsToJson {κ : Type} [Ord κ] (name : κ → String) (counts : SortedMap κ Nat) : Json :=
  .object (counts.entries.map fun entry => (name entry.1, Json.ofNat entry.2))

/-- The counts of a list of conflicts as a value. -/
def Summary.toJson (s : Summary) : Json :=
  .object [("total", Json.ofNat s.total), ("by_severity", countsToJson Grade.name s.byGrade),
    ("by_type", countsToJson Kind.name s.byKind), ("resolved", Json.ofNat s.resolved),
    ("unresolved", Json.ofNat s.unresolved)]

/-- A report as a value. -/
def Report.toJson (report : Report) : Json :=
  .object [("categories", .array (report.categories.map Category.toJson)),
    ("conflicts", .array (report.entries.map Entry.toJson)), ("summary", report.summary.toJson)]

end Conflict

end Rulebook
