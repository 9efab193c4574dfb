/-
**Prompts as values.**

Main definitions:

* `Rulebook.Prompt.toJson` — a prompt and what went into it as an object.
-/

import Rulebook.Prompt.Generator
import Rulebook.Rule.Encoding

set_option autoImplicit false

namespace Rulebook

/-- A prompt as an object. -/
def Prompt.toJson (p : Prompt) : Json :=
  .object [("prompt", .string p.text), ("category", p.category.toJson),
    ("active_rules", .array (p.rules.map Rule.toJson)), ("template_used", .string p.template)]

end Rulebook
