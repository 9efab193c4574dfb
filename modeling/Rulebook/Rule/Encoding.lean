/-
**Rules as structured values.**

Main definitions:

* `Rulebook.Rule.toJson`, `Rulebook.Rule.ofJson` — writing a rule and reading one.  Absent texts
  are not written; the id, the name, the categories and the severity must be there when a rule is
  read.
-/

import Rulebook.Json.Decode
import Rulebook.Rule.Basic

set_option autoImplicit false

namespace Rulebook

/-- A field that is written only if it has a value. -/
def Json.optionalField (name : String) (value : Option String) : Fields :=
  match value with
  | some text => [(name, .string text)]
  | none => []

/-- A category as a value. -/
def Category.toJson (c : Category) : Json := .string c.name

/-- A category from a value. -/
def Category.ofJson : Json.Decoder Category := Json.asVariant all name

/-- A severity as a value. -/
def Severity.toJson (s : Severity) : Json := .string s.name

/-- A severity from a value. -/
def Severity.ofJson : Json.Decoder Severity := Json.asVariant all name

namespace Example

/-- A sample as a value. -/
def toJson (e : Example) : Json :=
  .object (Json.optionalField "language" e.language ++ [("code", .string e.code)] ++
    Json.optionalField "explanation" e.explanation)

/-- A sample from a value. -/
def ofJson : Json.Decoder Example := fun value => do
  let r ← Json.Record.read "struct Example"
    [("language", Json.fits (Json.asOption Json.asString)),
     ("code", Json.fits Json.asString),
     ("explanation", Json.fits (Json.asOption Json.asString))] value
  return {
    language := ← r.optional "language" (Json.asOption Json.asString) none
    code := ← r.required "code" Json.asString
    explanation := ← r.optional "explanation" (Json.asOption Json.asString) none }

end Example

namespace Examples

/-- Samples as a value. -/
def toJson (e : Examples) : Json :=
  .object [("good", .array (e.good.map Example.toJson)), ("bad", .array (e.bad.map Example.toJson))]

/-- Samples from a value. -/
def ofJson : Json.Decoder Examples := fun value => do
  let r ← Json.Record.read "struct Examples"
    [("good", Json.fits (Json.asList Example.ofJson)),
     ("bad", Json.fits (Json.asList Example.ofJson))] value
  return {
    good := ← r.optional "good" (Json.asList Example.ofJson) []
    bad := ← r.optional "bad" (Json.asList Example.ofJson) [] }

end Examples

namespace Rule

/-- A rule as a value. -/
def toJson (rule : Rule) : Json :=
  .object ([("id", .string rule.id), ("name", .string rule.name),
    ("description", .string rule.description), ("rationale", .string rule.rationale),
    ("category", .array (rule.category.map Category.toJson)),
    ("severity", rule.severity.toJson), ("enabled", .bool rule.enabled),
    ("examples", rule.examples.toJson)] ++
    Json.optionalField "standard" rule.standard ++ Json.optionalField "source" rule.source)

/-- A rule from a value. -/
def ofJson : Json.Decoder Rule := fun value => do
  let r ← Json.Record.read "struct Rule"
    [("id", Json.fits Json.asString), ("name", Json.fits Json.asString),
     ("description", Json.fits Json.asString), ("rationale", Json.fits Json.asString),
     ("category", Json.fits (Json.asList Category.ofJson)),
     ("severity", Json.fits Severity.ofJson), ("enabled", Json.fits Json.asBool),
     ("examples", Json.fits Examples.ofJson),
     ("standard", Json.fits (Json.asOption Json.asString)),
     ("source", Json.fits (Json.asOption Json.asPath))] value
  return {
    id := ← r.required "id" Json.asString
    name := ← r.required "name" Json.asString
    description := ← r.optional "description" Json.asString ""
    rationale := ← r.optional "rationale" Json.asString ""
    category := ← r.required "category" (Json.asList Category.ofJson)
    severity := ← r.required "severity" Severity.ofJson
    enabled := ← r.optional "enabled" Json.asBool true
    examples := ← r.optional "examples" Examples.ofJson Examples.none
    standard := ← r.optional "standard" (Json.asOption Json.asString) none
    source := ← r.optional "source" (Json.asOption Json.asPath) none }

end Rule

end Rulebook
