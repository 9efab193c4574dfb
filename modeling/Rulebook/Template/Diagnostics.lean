/-
**What is wrong with a template, for readers.**

Faults that have a place are shown in the template; the others follow one by one.

Main definitions:

* `Rulebook.Template.diagnostics` — the message about the faults of a template.
-/

import Rulebook.Snippet.Drawing
import Rulebook.Template.Validation

set_option autoImplicit false

namespace Rulebook.Template

/-- A fault with its place, if it has one. -/
def Fault.remark? (fault : Fault) : Option Snippet.Remark :=
  fault.span?.map fun span => ⟨span, fault.message⟩

/-- The part of the message about faults with places. -/
def placedPart (title : String) (template : List Char) (faults : List Fault) : String :=
  match faults.filterMap Fault.remark? with
  | [] => "error: " ++ title ++ "\n"
  | remarks => Snippet.annotate title template remarks

/-- The part of the message about a fault without a place. -/
def unplacedPart (fault : Fault) : String :=
  match fault.span? with
  | some _ => ""
  | none => "\nerror: " ++ fault.message

/-- The message about the faults of a template. -/
def diagnostics (title : String) (template : List Char) : String :=
  (faults template).foldl (fun text fault => text ++ unplacedPart fault)
    (placedPart title template (faults template))

end Rulebook.Template
