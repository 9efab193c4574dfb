/-
**What a prompt tells.**

The template of a prompt is filled from the rules that are in force for its category: their ids,
titles, descriptions and severities, the first examples of how to follow them, and, if wanted, the
conflicts among them.

Main definitions:

* `Rulebook.Prompt.activeRules` — the rules in force for a category;
* `Rulebook.Prompt.data` — the values that a template is filled from.
-/

import Rulebook.Conflict.Scan
import Rulebook.Json.Basic
import Rulebook.Prompt.Detection

set_option autoImplicit false

namespace Rulebook.Prompt

/-- The number of examples that a prompt shows at most. -/
def maxExamples : Nat := 5

/-- The rules in force for a category, and the universal ones. -/
def activeRules (registry : Registry) (overrides : Overrides) (category : Category) :
    List Rule :=
  ((registry.query [category, .universal] none).map fun rule =>
    overrides.applyLayered rule [category]).filter (·.enabled)

/-! ### Values -/

/-- A text, or nothing. -/
def textOrNull : Option String → Json
  | some s => .string s
  | none => .null

/-- What is told of a rule. -/
def ruleData (rule : Rule) : Json :=
  .object [("id", .string rule.id), ("name", .string rule.name),
    ("description", .string rule.description), ("severity", .string rule.severity.name)]

/-- What is told of an example. -/
def exampleData (entry : Rule × Example) : Json :=
  .object [("rule_id", .string entry.1.id), ("language", textOrNull entry.2.language),
    ("code", .string entry.2.code), ("explanation", textOrNull entry.2.explanation)]

/-- The examples of how to follow some rules, as far as they are shown. -/
def shownExamples (rules : List Rule) : List (Rule × Example) :=
  (rules.flatMap fun rule => rule.examples.good.map fun e => (rule, e)).take maxExamples

/-- What is told of a conflict. -/
def conflictData (conflict : Conflict) : Json :=
  .object [("type", .string conflict.kind.name), ("severity", .string conflict.grade.name),
    ("rule1", .string conflict.first.id), ("rule2", .string conflict.second.id),
    ("description", .string conflict.description), ("suggestion", .string conflict.suggestion)]

/-- A field that is there only if it has a text. -/
def givenField (name : String) (value : Option String) : Fields :=
  match value with
  | some s => [(name, .string s)]
  | none => []

/-- The fields that come from the context. -/
def contextFields (context : PromptContext) : Fields :=
  givenField "file_path" context.filePath ++ givenField "function_name" context.functionName ++
    givenField "file_type" context.fileType ++ givenField "code_context" context.codeContext

/-- The fields about the conflicts among some rules. -/
def conflictFields (rules : List Rule) : Fields :=
  let conflicts := Conflict.among rules
  [("has_conflicts", .bool (!conflicts.isEmpty)), ("conflicts", .array (conflicts.map conflictData))]

/-- The values that a template is filled from. -/
def data (languageStandard : String) (withConflicts : Bool) (category : Category)
    (context : PromptContext) (rules : List Rule) : Json :=
  .object ([("category", .string category.name), ("c_standard", .string languageStandard),
    ("rule_count", Json.ofNat rules.length), ("rules", .array (rules.map ruleData)),
    ("examples", .array ((shownExamples rules).map exampleData))] ++ contextFields context ++
    if withConflicts then conflictFields rules else [])

end Rulebook.Prompt
