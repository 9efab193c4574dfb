/-
**Checking a template.**

Before a template is used its directives are checked.  A directive is malformed if the first letter
after `{#` is none of `i`, `e`, `f` and `l`.  For each kind of block the number of opening keywords
must be that of the closing tags; an opening keyword counts also where its tag is not complete.
Only if both numbers agree the nesting is checked: every closing tag must belong to the last tag
that is open.

Main definitions:

* `Rulebook.Template.Fault`, `Rulebook.Template.Fault.message` — what is wrong, in words;
* `Rulebook.Template.faults` — everything that is wrong with a template;
* `Rulebook.Template.IsValid` — nothing is.
-/

import Rulebook.Template.Block
import Rulebook.Text.Search
import Rulebook.Text.Word

set_option autoImplicit false

namespace Rulebook.Template

/-! ### Faults -/

/-- What is wrong with a template.  Spans and places count bytes. -/
inductive Fault where
  /-- A directive whose first letter begins no keyword. -/
  | malformed (letter : Char) (span : Span)
  /-- The numbers of opening keywords and closing tags of a kind differ. -/
  | unbalanced (kind : BlockKind) (opened closed : Nat)
  /-- A closing tag that meets an opening tag of the other kind. -/
  | crossing (closing opening : Tag) (openedAt : Nat) (span : Span)
  /-- A closing tag where nothing is open. -/
  | unopened (closing : Tag) (span : Span)
  deriving DecidableEq, Repr

namespace Fault

/-- A fault in words. -/
def message : Fault → String
  | .malformed letter _ => "malformed directive `" ++ String.ofList ['{', '#', letter] ++ "...`"
  | .unbalanced kind opened closed =>
    "unbalanced blocks: " ++ toString opened ++ " `" ++ (Tag.opening kind []).label ++ "` but " ++
      toString closed ++ " `" ++ (Tag.closing kind).label ++ "`"
  | .crossing closing opening openedAt _ =>
    "`" ++ closing.label ++ "` closes `" ++ opening.label ++ "` opened at byte " ++
      toString openedAt
  | .unopened closing _ => "`" ++ closing.label ++ "` without a matching opener"

/-- Where a fault is, if it has a single place. -/
def span? : Fault → Option Span
  | .malformed _ span => some span
  | .unbalanced _ _ _ => none
  | .crossing _ _ _ span => some span
  | .unopened _ span => some span

end Fault

/-! ### Malformed directives -/

/-- The letter of the directive at the beginning of a text, and the length of the directive: up to
its closing brace, or to the next brace or the end of the text. -/
def readDirective? : List Char → Option (Char × Nat)
  | '{' :: '#' :: letter :: rest =>
    if letter.isAlpha then
      let content := rest.takeWhile notBrace
      match rest.dropWhile notBrace with
      | '}' :: _ => some (letter, content.length + 4)
      | _ => some (letter, content.length + 3)
    else none
  | _ => none

/-- The letters that begin a directive. -/
def directiveLetters : List Char := ['i', 'e', 'f', 'l']

/-- The malformed directives of a template. -/
def malformedDirectives (text : List Char) : List Fault :=
  ((Text.placedTokens readDirective? text).filter fun found =>
    !directiveLetters.contains found.1).map fun found =>
      .malformed found.1 (found.2.inBytes text)

/-! ### Counts -/

/-- Whether a text begins with the opening keyword of a kind of block, as a whole word. -/
def startsOpening (kind : BlockKind) (s : List Char) : Bool :=
  match ('{' :: '#' :: kind.keyword.toList).isPrefixOf? s with
  | some [] => true
  | some (next :: _) => !Text.isWord next
  | none => false

/-- The number of opening keywords of a kind. -/
def openingCount (kind : BlockKind) (text : List Char) : Nat :=
  Text.countSuffixes (startsOpening kind) text

/-- The number of closing tags of a kind. -/
def closingCount (kind : BlockKind) (text : List Char) : Nat :=
  Text.countOf (Tag.closing kind).label.toList text

/-- The fault of a kind of block whose numbers differ. -/
def countFault (text : List Char) (kind : BlockKind) : Option Fault :=
  let opened := openingCount kind text
  let closed := closingCount kind text
  if opened = closed then none else some (.unbalanced kind opened closed)

/-- The kinds of block whose numbers differ. -/
def countFaults (text : List Char) : List Fault :=
  [BlockKind.conditional, BlockKind.loop].filterMap (countFault text)

/-! ### Nesting -/

/-- The faults of the closing tags to come, after the opening tags on the stack.  A closing tag
takes the top of the stack away whatever its kind. -/
def nestingFaultsFrom (text : List Char) : List Mark → List Mark → List Fault
  | _, [] => []
  | stack, mark :: rest =>
    if mark.tag.isOpening then nestingFaultsFrom text (mark :: stack) rest
    else
      match stack with
      | [] => .unopened mark.tag (mark.span.inBytes text) :: nestingFaultsFrom text [] rest
      | top :: below =>
        if mark.tag.closes top.tag then nestingFaultsFrom text below rest
        else
          .crossing mark.tag top.tag (Text.byteOffset text top.span.start)
            (mark.span.inBytes text) :: nestingFaultsFrom text below rest

/-- The closing tags that do not belong to the last open tag. -/
def nestingFaults (text : List Char) : List Fault := nestingFaultsFrom text [] (marks text)

/-! ### All faults -/

/-- Everything that is wrong with a template. -/
def faults (text : List Char) : List Fault :=
  let counts := countFaults text
  malformedDirectives text ++ counts ++ if counts.isEmpty then nestingFaults text else []

/-- Whether nothing is wrong with a template. -/
def isValid (text : List Char) : Bool := (faults text).isEmpty

end Rulebook.Template
