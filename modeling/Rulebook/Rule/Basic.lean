/-
**Rules.**

A rule of a coding standard has an id of the form `<scope>-<topic>`, a title, prose, the categories
that it applies to, a severity, and examples.  It may be switched off, and it may know the document
that it came from.

Main definitions:

* `Rulebook.Rule`, `Rulebook.Example`, `Rulebook.Examples` — rules and their examples;
* `Rulebook.Rule.topic` — the last segment of the id;
* `Rulebook.Rule.isUniversal`, `Rulebook.Rule.hasCategory` — what a rule applies to;
* `Rulebook.Rule.IdFormed`, `Rulebook.Rule.validateId` — the form of an id, and the check for it.
-/

import Rulebook.Category
import Rulebook.Severity
import Rulebook.Text.Search

set_option autoImplicit false

namespace Rulebook

/-- A code sample. -/
structure Example where
  /-- The language of the sample, if its fence names one. -/
  language : Option String
  /-- The code. -/
  code : String
  /-- What the sample shows, if its heading says so. -/
  explanation : Option String
  deriving DecidableEq, Repr

/-- The samples of a rule. -/
structure Examples where
  /-- Samples that follow the rule. -/
  good : List Example
  /-- Samples that break it. -/
  bad : List Example
  deriving DecidableEq, Repr

/-- A rule of a coding standard. -/
structure Rule where
  /-- The id, which no other rule of a registry has. -/
  id : String
  /-- The title. -/
  name : String
  /-- What the rule demands. -/
  description : String
  /-- Why it does. -/
  rationale : String
  /-- The categories that the rule applies to. -/
  category : List Category
  /-- How strongly the rule is enforced. -/
  severity : Severity
  /-- Whether the rule is in force. -/
  enabled : Bool
  /-- The samples. -/
  examples : Examples
  /-- The language standard that the rule was written for. -/
  standard : Option String
  /-- The document that the rule came from. -/
  source : Option String
  deriving DecidableEq, Repr

namespace Examples

/-- No samples. -/
def none : Examples := ⟨[], []⟩

end Examples

namespace Rule

/-- Whether the rule applies to every project. -/
def isUniversal (rule : Rule) : Bool := rule.category.contains .universal

/-- Whether the rule is tagged with a category. -/
def hasCategory (rule : Rule) (category : Category) : Bool := rule.category.contains category

/-- The topic: what follows the last hyphen of the id. -/
def topic (rule : Rule) : List Char := Text.lastSegment '-' rule.id.toList

/-! ### Ids -/

/-- The characters of the segments of an id. -/
def isIdChar (c : Char) : Bool := c.isLower || c.isDigit || c == '_'

/-- Whether a text is a segment of an id. -/
def isIdSegment (s : List Char) : Bool := !s.isEmpty && s.all isIdChar

/-- An id is made of two or more segments with hyphens between them. -/
def IdFormed (id : List Char) : Prop :=
  2 ≤ (Text.segments '-' id).length ∧ ∀ s ∈ Text.segments '-' id, isIdSegment s = true

instance (id : List Char) : Decidable (IdFormed id) := by
  unfold IdFormed
  infer_instance

/-- Refuses a text that is not an id. -/
def validateId (id : String) : Except RuleError Unit :=
  if IdFormed id.toList then .ok () else .error (.invalidId id)

/-- Exactly the ids are accepted. -/
theorem validateId_eq_ok_iff (id : String) : validateId id = .ok () ↔ IdFormed id.toList := by
  rw [validateId]
  split <;> simp_all

end Rule

end Rulebook
