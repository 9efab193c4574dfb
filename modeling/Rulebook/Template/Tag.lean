/-
**Tags.**

A template is plain text with directives.  An opening tag is `{#if condition}` or `{#each path}`:
the keyword, at least one blank, an argument without braces, and a closing brace; blanks around the
argument do not belong to it.  A closing tag is `{/if}` or `{/each}`, to the letter.  Everything
else, tags that are not complete included, is text.

Main definitions:

* `Rulebook.Template.BlockKind`, `Rulebook.Template.Tag` — the kinds of block and their tags;
* `Rulebook.Template.Tag.read?` — the tag at the beginning of a text, with its length;
* `Rulebook.Template.marks` — the tags of a template, each with its span.
-/

import Rulebook.Text.Blank
import Rulebook.Text.Page
import Rulebook.Text.Pieces

set_option autoImplicit false

namespace Rulebook.Template

/-! ### Tags -/

/-- What a block does. -/
inductive BlockKind where
  /-- Its body is shown if a condition holds. -/
  | conditional
  /-- Its body is shown once for every item of a list. -/
  | loop
  deriving DecidableEq, Repr

/-- The keyword of a kind of block. -/
def BlockKind.keyword : BlockKind → String
  | .conditional => "if"
  | .loop => "each"

/-- A tag of a template. -/
inductive Tag where
  /-- The beginning of a block, with its condition or path. -/
  | opening (kind : BlockKind) (argument : List Char)
  /-- The end of a block. -/
  | closing (kind : BlockKind)
  deriving DecidableEq, Repr

namespace Tag

/-- Whether a tag begins a block. -/
def isOpening : Tag → Bool
  | .opening _ _ => true
  | .closing _ => false

/-- The kind of block that a tag belongs to. -/
def kind : Tag → BlockKind
  | .opening kind _ => kind
  | .closing kind => kind

/-- Whether the first tag ends a block that the second one began. -/
def closes : Tag → Tag → Bool
  | .closing kind, .opening kind' _ => kind == kind'
  | _, _ => false

/-- A tag as messages name it. -/
def label : Tag → String
  | .opening kind _ => Text.braced ("#" ++ kind.keyword)
  | .closing kind => Text.braced ("/" ++ kind.keyword)

end Tag

/-! ### Reading -/

/-- Whether a character is neither brace. -/
def notBrace (c : Char) : Bool := c != '{' && c != '}'

/-- The argument of an opening tag after its keyword, and the number of characters up to the end of
the tag. -/
def readArgument? (s : List Char) : Option (List Char × Nat) :=
  let content := s.takeWhile notBrace
  match content, s.dropWhile notBrace with
  | first :: _, '}' :: _ =>
    if Text.isBlank first then some (Text.trim content, content.length + 1) else none
  | _, _ => none

/-- The tag at the beginning of a text, and its length. -/
def Tag.read? : List Char → Option (Tag × Nat)
  | '{' :: '#' :: 'i' :: 'f' :: rest =>
    (readArgument? rest).map fun found => (.opening .conditional found.1, 4 + found.2)
  | '{' :: '#' :: 'e' :: 'a' :: 'c' :: 'h' :: rest =>
    (readArgument? rest).map fun found => (.opening .loop found.1, 6 + found.2)
  | '{' :: '/' :: 'i' :: 'f' :: '}' :: _ => some (.closing .conditional, 5)
  | '{' :: '/' :: 'e' :: 'a' :: 'c' :: 'h' :: '}' :: _ => some (.closing .loop, 7)
  | _ => none

/-- A tag at its place. -/
structure Mark where
  /-- The tag. -/
  tag : Tag
  /-- Where it stands. -/
  span : Span
  deriving DecidableEq, Repr

/-- The tags of a template, in order. -/
def marks (text : List Char) : List Mark :=
  (Text.placedTokens Tag.read? text).map fun found => ⟨found.1, found.2⟩

end Rulebook.Template
