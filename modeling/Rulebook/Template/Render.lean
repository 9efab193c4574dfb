/-
**Rendering.**

A template is rendered in three passes over its text.  First the conditional blocks outside of
loops are replaced by their bodies, or removed; then every loop is replaced by its body rendered
for each of its items; then the variables are replaced by their values.  Conditions inside a loop
wait for the body to be rendered, so they see the item.

Main definitions:

* `Rulebook.Template.showConditionals` — the first pass;
* `Rulebook.Template.renderScoped` — the three passes, with stand-ins for the braces of values;
* `Rulebook.Template.render` — a template rendered against a context.

The recursion goes into the bodies of blocks.  A body is shorter than the text it stands in; the
definitions ask for this where they descend, so that they are total without further argument.
-/

import Rulebook.Template.Block
import Rulebook.Template.Condition
import Rulebook.Template.Variable

set_option autoImplicit false

namespace Rulebook.Template

/-- A text with the conditional blocks outside of loops decided. -/
def showConditionals (context : Json) (text : List Char) : List Char :=
  splice text fun block =>
    match block.kind with
    | .conditional =>
      if holds context block.argument then
        if (block.body text).length < text.length then
          some (showConditionals context (block.body text))
        else some []
      else some []
    | .loop => none
termination_by text.length

/-- A text with the loops unrolled, their bodies being rendered by `renderBody`. -/
def unrollLoops (renderBody : Json → List Char → List Char) (context : Json) (text : List Char) :
    List Char :=
  splice text fun block =>
    match block.kind with
    | .loop =>
      some ((loopScopes context block.argument).flatMap fun scope =>
        renderBody scope (block.body text))
    | .conditional => none

/-- A text rendered in a scope, with stand-ins for the opening braces of values. -/
def renderScoped (context : Json) (text : List Char) : List Char :=
  let shown := showConditionals context text
  let unrolled := unrollLoops
    (fun scope body => if body.length < text.length then renderScoped scope body else [])
    context shown
  substitute context unrolled
termination_by text.length

/-- A template rendered against a context. -/
def renderText (context : Json) (text : List Char) : List Char :=
  unmask (renderScoped context text)

/-- A template rendered against a context. -/
def render (template : String) (context : Json) : String :=
  String.ofList (renderText context template.toList)

end Rulebook.Template
