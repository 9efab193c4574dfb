/-
**What a template needs.**

The names that a template needs from its context are the first names of the paths of its variables,
loops and conditions, as far as they stand outside of the bodies of loops.  Loop metadata, whose
names begin with `@`, do not count.

Main definitions:

* `Rulebook.Template.neededNames` — the names, in the order of their first use;
* `Rulebook.Template.missingNames` — those that a context does not have.
-/

import Rulebook.Template.Block
import Rulebook.Template.Condition
import Rulebook.Template.Variable

set_option autoImplicit false

namespace Rulebook.Template

/-- The spans of the loops of a template. -/
def loopSpans (text : List Char) : List Span :=
  ((matchedBlocks (marks text)).filter fun found => found.2.kind == .loop).map fun found =>
    found.2.outer

/-- Whether a span lies in the body of one of the loops, or is its closing tag. -/
def isInLoop (loops : List Span) (span : Span) : Bool :=
  loops.any fun outer => outer.contains span && outer.start != span.start

/-- The sides of a condition: those of its first `!=`, or else of its first `==`, or the condition
itself, after the exclamation marks at its beginning. -/
def conditionSides (condition : List Char) : List (List Char) :=
  let plain := Text.trim ((Text.trim condition).dropWhile (· == '!'))
  match Text.splitFirst ['!', '='] plain with
  | some (left, right) => [Text.trim left, Text.trim right]
  | none =>
    match Text.splitFirst ['=', '='] plain with
    | some (left, right) => [Text.trim left, Text.trim right]
    | none => [plain]

/-- The sides of a condition that are not literals. -/
def conditionPaths (condition : List Char) : List (List Char) :=
  (conditionSides condition).filter fun side =>
    (quotedText? side).isNone && !isBareLiteral side

/-- The paths that a tag mentions. -/
def tagPaths : Tag → List (List Char)
  | .opening .conditional condition => conditionPaths condition
  | .opening .loop path => [path]
  | .closing _ => []

/-- The paths that the tags outside of loop bodies mention, each with its place. -/
def directivePaths (text : List Char) : List (Nat × List Char) :=
  ((marks text).filter fun mark => !isInLoop (loopSpans text) mark.span).flatMap fun mark =>
    (tagPaths mark.tag).map fun path => (mark.span.start, path)

/-- The paths of the variables outside of loop bodies, each with its place. -/
def variablePaths (text : List Char) : List (Nat × List Char) :=
  ((Text.placedTokens Variable.read? text).filter fun found =>
    !isInLoop (loopSpans text) found.2).map fun found => (found.2.start, found.1)

/-- The paths outside of loop bodies, in the order of their places. -/
def neededPaths (text : List Char) : List (List Char) :=
  ((directivePaths text ++ variablePaths text).mergeSort fun a b => decide (a.1 ≤ b.1)).map
    Prod.snd

/-- The first name of a path, unless the path is loop metadata or the name is empty. -/
def rootName? (path : List Char) : Option String :=
  if path.head? = some '@' then none
  else
    match Text.trim (Text.firstSegment '.' path) with
    | [] => none
    | name => some (String.ofList name)

/-- The names that a template needs from its context, in the order of their first use. -/
def neededNames (text : List Char) : List String :=
  ((neededPaths text).filterMap rootName?).eraseDups

/-- The names that a template needs and a context does not have. -/
def missingNames (text : List Char) (context : Json) : List String :=
  (neededNames text).filter fun name => (context.get? name).isNone

end Rulebook.Template
