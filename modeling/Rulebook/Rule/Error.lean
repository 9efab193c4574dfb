/-
**What can be wrong with a rule.**

A rule document that is not accepted, and a rule that a registry refuses, have one cause, and every
cause has its message.

Main definitions:

* `Rulebook.RuleError` — the causes;
* `Rulebook.RuleError.message` — their wording.
-/

set_option autoImplicit false

namespace Rulebook

/-- Why a rule, or a part of one, is not accepted. -/
inductive RuleError where
  /-- The document has no section of this name. -/
  | missingSection (name : String)
  /-- The metadata lack a required field. -/
  | missingField (field : String)
  /-- The id is not made of at least two segments. -/
  | invalidId (id : String)
  /-- The text names no category. -/
  | unknownCategory (text : String)
  /-- The text names no severity. -/
  | unknownSeverity (text : String)
  /-- The rule has no category. -/
  | emptyCategory
  /-- The field has a value that cannot be read. -/
  | invalidValue (field value : String)
  /-- The metadata block is not a map of settings. -/
  | invalidMetadata
  /-- Another rule has the id. -/
  | duplicateId (id : String)
  deriving DecidableEq, Repr

/-- The wording of a cause. -/
def RuleError.message : RuleError → String
  | .missingSection name => "missing `## " ++ name ++ "` section"
  | .missingField field => "missing required metadata field `" ++ field ++ "`"
  | .invalidId id => "rule id `" ++ id ++ "` is not of the form `<scope>-<topic>`"
  | .unknownCategory text => "unknown category `" ++ text ++ "`"
  | .unknownSeverity text => "unknown severity `" ++ text ++ "`"
  | .emptyCategory => "rule declares no categories"
  | .invalidValue field value => "invalid value for `" ++ field ++ "`: " ++ value
  | .invalidMetadata => "invalid metadata block:"
  | .duplicateId id => "duplicate rule id `" ++ id ++ "`"

end Rulebook
