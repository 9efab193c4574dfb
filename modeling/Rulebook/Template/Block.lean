/-
**Blocks.**

A block is an opening tag with the closing tag that belongs to it.  Reading the tags in order, every
opening tag is put on a stack, and a closing tag belongs to the tag on top of the stack if that is
of its kind; otherwise it is passed over.  Tags that belong to no block are text.

Main definitions:

* `Rulebook.Template.Block` — blocks, with the spans of their tags;
* `Rulebook.Template.matchedBlocks` — the blocks of a list of tags, each with its depth: the number
  of opening tags on the stack below it;
* `Rulebook.Template.outerBlocks` — those of depth zero;
* `Rulebook.Template.splice` — a text in which outer blocks are replaced.
-/

import Rulebook.Template.Tag

set_option autoImplicit false

namespace Rulebook.Template

/-- An opening tag and the closing tag that belongs to it. -/
structure Block where
  /-- What the block does. -/
  kind : BlockKind
  /-- Its condition or path. -/
  argument : List Char
  /-- Where its opening tag stands. -/
  opening : Span
  /-- Where its closing tag stands. -/
  closing : Span
  deriving DecidableEq, Repr

/-- The span from the beginning of the opening tag to the end of the closing one. -/
def Block.outer (block : Block) : Span := ⟨block.opening.start, block.closing.stop⟩

/-- The text between the two tags. -/
def Block.body (block : Block) (text : List Char) : List Char :=
  Text.slice text block.opening.stop block.closing.start

/-- The block of two tags, if the second ends what the first began. -/
def Block.ofMarks? (first second : Mark) : Option Block :=
  match first.tag, second.tag with
  | .opening kind argument, .closing kind' =>
    if kind = kind' then some ⟨kind, argument, first.span, second.span⟩ else none
  | _, _ => none

/-- The blocks of the tags to come, in the order of their closing tags, after the opening tags on
the stack. -/
def matchMarks : List Mark → List Mark → List (Nat × Block)
  | _, [] => []
  | stack, mark :: rest =>
    if mark.tag.isOpening then matchMarks (mark :: stack) rest
    else
      match stack with
      | [] => matchMarks [] rest
      | top :: below =>
        match Block.ofMarks? top mark with
        | some block => (below.length, block) :: matchMarks below rest
        | none => matchMarks (top :: below) rest

/-- The blocks of a list of tags in the order of their opening tags, each with its depth. -/
def matchedBlocks (ms : List Mark) : List (Nat × Block) :=
  (matchMarks [] ms).mergeSort fun a b => decide (a.2.opening.start ≤ b.2.opening.start)

/-- The blocks of depth zero, in order. -/
def outerBlocks (ms : List Mark) : List Block :=
  ((matchedBlocks ms).filter fun found => found.1 == 0).map Prod.snd

/-- The text from a place on, with the blocks replaced for which `expand` has a replacement. -/
def spliceFrom (text : List Char) (expand : Block → Option (List Char)) :
    Nat → List Block → List Char
  | place, [] => text.drop place
  | place, block :: rest =>
    match expand block with
    | some replacement =>
      Text.slice text place block.opening.start ++ replacement ++
        spliceFrom text expand block.closing.stop rest
    | none => spliceFrom text expand place rest

/-- A text with the outer blocks replaced for which `expand` has a replacement. -/
def splice (text : List Char) (expand : Block → Option (List Char)) : List Char :=
  spliceFrom text expand 0 (outerBlocks (marks text))

end Rulebook.Template
