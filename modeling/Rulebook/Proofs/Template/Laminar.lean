/-
**Blocks are laminar, and splicing is safe.**

Rendering cuts texts at the places where their blocks begin and end.  It never asks whether such a
place lies in the text, or whether a part ends before it begins; and it goes into the bodies of
blocks without asking whether there is an end to it.  That this goes well comes from how the blocks
of any text lie, balanced or not.  Any two of them are apart, or one lies in the body of the other.
Those that are replaced follow each other, so that the text falls into parts, each of which is copied
or replaced, and each replacement stands for one block.  And a body lacks the tags around it: what a
pass goes into is shorter than what it came from.  The first pass rewrites the text before the second
one goes into loops; it only takes something away, so that a body that is found after it is shorter
than the text from before it.

Main definitions:

* `Rulebook.Template.Laminar` — how the blocks of a text lie;
* `Rulebook.Template.cuts` — the parts into which splicing cuts a text;
* `Rulebook.Template.Spliced` — what splicing does to a text;
* `Rulebook.Template.RendersWithin` — what the passes of the renderer do to a text;
* `Rulebook.Template.IsLoopBody` — a text is rendered for the items of a loop of another one.

Main results:

* `Rulebook.Template.subperm_marks` — every tag is in one block at most;
* `Rulebook.Template.spliced` — **splicing replaces the blocks for which there is a replacement**,
  and nothing else;
* `Rulebook.Template.showConditionals_sublist` — the first pass only takes something away;
* `Rulebook.Template.renderScoped_unguarded` — bodies are always shorter where a pass asks for it;
* `Rulebook.Template.blocks_laminar` — all of this, for any text.
-/

import Mathlib.Data.List.Flatten
import Mathlib.Data.List.Perm.Subperm
import Rulebook.Proofs.Template.Outermost

set_option autoImplicit false

namespace Rulebook.Template

/-! ### Tags of blocks -/

/-- The tags of the blocks that a stack finds are among those on the stack and those to come, each
as often as it is there. -/
theorem subperm_marks_openMatches (stack ms : List Mark) :
    ((openMatches stack ms).flatMap fun found => found.2.marks).Subperm (stack ++ ms) := by
  fun_induction openMatches stack ms with
  | case1 stack => exact List.nil_subperm
  | case2 stack mark rest hopening ih => exact ih.trans List.perm_middle.symm.subperm
  | case3 mark rest hclosing ih => exact ih.trans (List.sublist_cons_self mark rest).subperm
  | case4 mark rest hclosing top below block hblock ih =>
      -- The tags of the block are the top of the stack and the next one to come.
      rw [List.flatMap_cons, Block.marks_of_ofMarks? hblock]
      have htags : (top :: mark :: (below ++ rest)).Perm (top :: (below ++ mark :: rest)) :=
        List.perm_middle.symm.cons top
      exact ((List.subperm_append_left [top, mark]).mpr ih).trans htags.subperm
  | case5 mark rest hclosing top below hblock ih =>
      exact ih.trans ((List.sublist_cons_self mark rest).append_left (top :: below)).subperm

variable {text : List Char}

/-- **Every tag is in one block at most.** -/
theorem subperm_marks (text : List Char) :
    ((blocks text).flatMap Block.marks).Subperm (marks text) := by
  have hfound : ((openMatches [] (marks text)).map Prod.snd).flatMap Block.marks =
      (openMatches [] (marks text)).flatMap fun found => found.2.marks := List.flatMap_map ..
  have hperm := (perm_blocks text).flatMap_right Block.marks
  rw [hfound] at hperm
  exact hperm.subperm.trans (subperm_marks_openMatches [] (marks text))

theorem nodup_marks_blocks (text : List Char) : ((blocks text).flatMap Block.marks).Nodup := by
  obtain ⟨tags, hperm, hsub⟩ := subperm_marks text
  exact hperm.nodup_iff.mp ((nodup_marks text).sublist hsub)

/-- A block ends where the text ends, or before. -/
theorem stop_le_length {block : Block} (h : block ∈ blocks text) :
    block.closing.stop ≤ text.length := by
  have hclosing : (⟨.closing block.kind, block.closing⟩ : Mark) ∈ marks text :=
    (sublist_marks_of_mem_blocks h).subset (by simp [Block.marks])
  obtain ⟨found, hfound, hmark⟩ := List.mem_map.mp hclosing
  have hspan := ((Text.apart_placed Tag.read? text 0).2 found hfound).2.2
  rw [Nat.zero_add] at hspan
  have hstop : found.2 = block.closing := congrArg Mark.span hmark
  rwa [hstop] at hspan

theorem outerBlocks_sublist (text : List Char) :
    (outerBlocks (marks text)).Sublist (blocks text) := by
  rw [outerBlocks_eq_filter]
  exact List.filter_sublist.trans List.filter_sublist

theorem pairwise_outerBlocks (text : List Char) :
    (outerBlocks (marks text)).Pairwise fun a b => a.closing.stop ≤ b.opening.start := by
  rw [outerBlocks_eq_filter]
  exact (pairwise_unenclosed text).filter _

/-- **How the blocks of a text lie.** -/
structure Laminar (text : List Char) : Prop where
  /-- In the order of their opening tags, any two blocks are apart, or the second one lies in the
  body of the first. -/
  nested : (blocks text).Pairwise fun a b => a.opening.start < b.opening.start ∧
    (a.closing.stop ≤ b.opening.start ∨ a.Encloses b)
  /-- The tags of a block are tags of the text. -/
  marks_sublist : ∀ block ∈ blocks text, block.marks.Sublist (marks text)
  /-- No tag is in two blocks, or in one of them twice. -/
  nodup_marks : ((blocks text).flatMap Block.marks).Nodup
  /-- The opening tag of a block ends before the closing tag begins, and all lies in the text. -/
  spans : ∀ block ∈ blocks text, block.opening.start < block.opening.stop ∧
    block.opening.stop ≤ block.closing.start ∧ block.closing.start < block.closing.stop ∧
    block.closing.stop ≤ text.length
  /-- The outer blocks are blocks of the text. -/
  outer_sublist : (outerBlocks (marks text)).Sublist (blocks text)
  /-- The outer blocks follow each other. -/
  outer_apart : (outerBlocks (marks text)).Pairwise fun a b => a.closing.stop ≤ b.opening.start

theorem laminar (text : List Char) : Laminar text where
  nested := pairwise_blocks text
  marks_sublist := fun _ => sublist_marks_of_mem_blocks
  nodup_marks := nodup_marks_blocks text
  spans := fun _ hblock =>
    have hspans := spans_of_mem_blocks hblock
    ⟨hspans.1, hspans.2.1, hspans.2.2, stop_le_length hblock⟩
  outer_sublist := outerBlocks_sublist text
  outer_apart := pairwise_outerBlocks text

/-! ### Splicing -/

/-- The blocks for which there is a replacement, each with its replacement. -/
def replaced (expand : Block → Option (List Char)) (found : List Block) :
    List (Block × List Char) :=
  found.filterMap fun block => (expand block).map (block, ·)

/-- The parts into which splicing cuts a text from a place on: what is copied, and the blocks that
are replaced, with their replacements. -/
def cuts (stop : Nat) : Nat → List (Block × List Char) → List (Span × Option (List Char))
  | place, [] => [(⟨place, stop⟩, none)]
  | place, (block, replacement) :: rest =>
    (⟨place, block.opening.start⟩, none) :: (block.outer, some replacement) ::
      cuts stop block.closing.stop rest

/-- The parts into which splicing cuts a text. -/
def splicedParts (text : List Char) (expand : Block → Option (List Char)) :
    List (Span × Option (List Char)) :=
  cuts text.length 0 (replaced expand (outerBlocks (marks text)))

/-- Spans that cover everything from one place up to another, one behind the other. -/
inductive Tiles (stop : Nat) : Nat → List Span → Prop where
  | nil : Tiles stop stop []
  | cons {place : Nat} {span : Span} {rest : List Span} : span.start = place →
      place ≤ span.stop → Tiles stop span.stop rest → Tiles stop place (span :: rest)

theorem Tiles.place_le {stop place : Nat} {spans : List Span} (h : Tiles stop place spans) :
    place ≤ stop := by
  induction h with
  | nil => exact Nat.le_refl stop
  | cons _ hspan _ ih => exact Nat.le_trans hspan ih

/-- Spans that cover everything up to a place lie in front of it. -/
theorem Tiles.in_range {stop place : Nat} {spans : List Span} (h : Tiles stop place spans) :
    ∀ span ∈ spans, span.start ≤ span.stop ∧ span.stop ≤ stop := by
  induction h with
  | nil => exact fun span hspan => absurd hspan List.not_mem_nil
  | cons hstart hspan hrest ih =>
      exact List.forall_mem_cons.mpr ⟨⟨hstart ▸ hspan, hrest.place_le⟩, ih⟩

/-- What the spans cover is the text. -/
theorem Tiles.flatMap_slice {text : List Char} {place : Nat} {spans : List Span}
    (h : Tiles text.length place spans) :
    spans.flatMap (fun span => Text.slice text span.start span.stop) = text.drop place := by
  induction h with
  | nil => rw [List.drop_length, List.flatMap_nil]
  | cons hstart hspan _ ih => rw [List.flatMap_cons, ih, hstart, slice_append_drop text hspan]

/-- Blocks that follow each other cut a text into parts that cover it. -/
theorem tiles_cuts {stop place : Nat} {found : List (Block × List Char)} (hplace : place ≤ stop)
    (hapart : found.Pairwise fun a b => a.1.closing.stop ≤ b.1.opening.start)
    (hspans : ∀ part ∈ found, place ≤ part.1.opening.start ∧
      part.1.opening.start ≤ part.1.closing.stop ∧ part.1.closing.stop ≤ stop) :
    Tiles stop place ((cuts stop place found).map Prod.fst) := by
  induction found generalizing place with
  | nil => exact .cons rfl hplace .nil
  | cons part rest ih =>
      obtain ⟨hfirst, hrest⟩ := List.pairwise_cons.mp hapart
      obtain ⟨⟨hbegin, hblock, hend⟩, hlater⟩ := List.forall_mem_cons.mp hspans
      refine .cons rfl hbegin (.cons rfl hblock (ih hend hrest fun other hother => ?_))
      exact ⟨hfirst other hother, (hlater other hother).2⟩

/-- The parts that are not copied are the blocks that are replaced. -/
theorem filterMap_cuts (stop place : Nat) (found : List (Block × List Char)) :
    (cuts stop place found).filterMap (fun part => part.2.map (part.1, ·)) =
      found.map fun part => (part.1.outer, part.2) := by
  induction found generalizing place with
  | nil => rfl
  | cons part rest ih => simp [cuts, ih]

/-- Splicing copies the parts between the blocks, and puts in the replacements. -/
theorem spliceFrom_eq_flatMap (text : List Char) (expand : Block → Option (List Char))
    (place : Nat) (found : List Block) :
    spliceFrom text expand place found =
      (cuts text.length place (replaced expand found)).flatMap fun part =>
        part.2.getD (Text.slice text part.1.start part.1.stop) := by
  induction found generalizing place with
  | nil =>
      rw [spliceFrom, replaced, List.filterMap_nil, cuts, List.flatMap_singleton]
      simp [Text.slice]
  | cons block rest ih =>
      rw [spliceFrom, replaced, List.filterMap_cons]
      cases expand block with
      | none => exact ih place
      | some replacement =>
          rw [ih block.closing.stop]
          simp [cuts, replaced, List.flatMap_cons]

theorem map_fst_replaced (expand : Block → Option (List Char)) (found : List Block) :
    (replaced expand found).map Prod.fst = found.filter fun block => (expand block).isSome := by
  induction found with
  | nil => rfl
  | cons block rest ih =>
      rw [replaced] at ih
      rw [replaced, List.filterMap_cons, List.filter_cons]
      cases expand block with
      | none => exact ih
      | some replacement => simp [ih]

/-- What is replaced is an outer block, by what it is to be replaced by. -/
theorem mem_replaced_iff {expand : Block → Option (List Char)} {found : List Block}
    {part : Block × List Char} :
    part ∈ replaced expand found ↔ part.1 ∈ found ∧ expand part.1 = some part.2 := by
  obtain ⟨block, replacement⟩ := part
  simp [replaced, List.mem_filterMap]

/-- The outer blocks cut a text into parts that cover it. -/
theorem tiles_splicedParts (text : List Char) (expand : Block → Option (List Char)) :
    Tiles text.length 0 ((splicedParts text expand).map Prod.fst) := by
  refine tiles_cuts (Nat.zero_le _) ?_ fun part hpart => ?_
  · have hblocks : ((replaced expand (outerBlocks (marks text))).map Prod.fst).Pairwise
        fun a b => a.closing.stop ≤ b.opening.start := by
      rw [map_fst_replaced]
      exact (pairwise_outerBlocks text).filter _
    exact List.pairwise_map.mp hblocks
  · have hblock := (outerBlocks_sublist text).subset (mem_replaced_iff.mp hpart).1
    obtain ⟨hopening, hbody, hclosing⟩ := spans_of_mem_blocks hblock
    exact ⟨Nat.zero_le _, by omega, stop_le_length hblock⟩

/-- **What splicing does to a text.** -/
structure Spliced (text : List Char) (expand : Block → Option (List Char)) : Prop where
  /-- The parts into which the text is cut cover it, one behind the other. -/
  tiles : Tiles text.length 0 ((splicedParts text expand).map Prod.fst)
  /-- Each part lies in the text, and ends behind its beginning. -/
  in_range : ∀ part ∈ splicedParts text expand,
    part.1.start ≤ part.1.stop ∧ part.1.stop ≤ text.length
  /-- The parts that are not copied are the outer blocks for which there is a replacement. -/
  replaced : (splicedParts text expand).filterMap (fun part => part.2.map (part.1, ·)) =
    (outerBlocks (marks text)).filterMap fun block => (expand block).map (block.outer, ·)
  /-- The result has the replacements in their places, and everything else as it is. -/
  result : splice text expand = (splicedParts text expand).flatMap fun part =>
    part.2.getD (Text.slice text part.1.start part.1.stop)

theorem spliced (text : List Char) (expand : Block → Option (List Char)) : Spliced text expand where
  tiles := tiles_splicedParts text expand
  in_range := fun part hpart =>
    (tiles_splicedParts text expand).in_range part.1 (List.mem_map_of_mem hpart)
  replaced := by
    rw [splicedParts, filterMap_cuts, Template.replaced, List.map_filterMap]
    refine List.filterMap_congr fun block _ => ?_
    rw [Option.map_map]
    rfl
  result := spliceFrom_eq_flatMap text expand 0 _

/-- Splicing asks for the replacements of outer blocks only. -/
theorem splice_congr {expand expand' : Block → Option (List Char)}
    (h : ∀ block ∈ outerBlocks (marks text), expand block = expand' block) :
    splice text expand = splice text expand' := by
  have hreplaced : replaced expand (outerBlocks (marks text)) =
      replaced expand' (outerBlocks (marks text)) :=
    List.filterMap_congr fun block hblock => by rw [h block hblock]
  rw [(spliced text expand).result, (spliced text expand').result, splicedParts, splicedParts,
    hreplaced]

/-- If blocks are replaced by parts of them, what is left is a part of the text. -/
theorem splice_sublist {expand : Block → Option (List Char)}
    (h : ∀ block ∈ outerBlocks (marks text), ∀ replacement, expand block = some replacement →
      replacement.Sublist (Text.slice text block.outer.start block.outer.stop)) :
    (splice text expand).Sublist text := by
  have hparts : ∀ part ∈ splicedParts text expand,
      (part.2.getD (Text.slice text part.1.start part.1.stop)).Sublist
        (Text.slice text part.1.start part.1.stop) := by
    rintro ⟨span, replacement⟩ hpart
    cases replacement with
    | none => exact List.Sublist.refl _
    | some replacement =>
        -- The span is that of an outer block, and this is its replacement.
        have hmem : (span, replacement) ∈
            (splicedParts text expand).filterMap fun part => part.2.map (part.1, ·) :=
          List.mem_filterMap.mpr ⟨_, hpart, rfl⟩
        rw [(spliced text expand).replaced] at hmem
        obtain ⟨block, hblock, hexpand⟩ := List.mem_filterMap.mp hmem
        obtain ⟨_, hsome, heq⟩ := Option.map_eq_some_iff.mp hexpand
        obtain ⟨rfl, rfl⟩ := Prod.mk.inj heq
        exact h block hblock _ hsome
  have hcover := (spliced text expand).tiles.flatMap_slice
  rw [List.flatMap_map, List.drop_zero] at hcover
  have hsub := List.Sublist.flatMap_right _ hparts
  rw [hcover] at hsub
  rw [(spliced text expand).result]
  exact hsub

/-! ### Bodies -/

theorem slice_sublist_slice (text : List Char) {start start' stop stop' : Nat}
    (hstart : start ≤ start') (hstop : stop' ≤ stop) :
    (Text.slice text start' stop').Sublist (Text.slice text start stop) := by
  have htake : (text.take stop').Sublist (text.take stop) := List.take_sublist_take_left hstop
  exact (List.drop_sublist_drop_left _ hstart).trans (htake.drop start)

/-- The body of a block is a part of the block. -/
theorem body_sublist_slice {block : Block} (h : block ∈ blocks text) :
    (block.body text).Sublist (Text.slice text block.outer.start block.outer.stop) := by
  obtain ⟨hopening, -, hclosing⟩ := spans_of_mem_blocks h
  exact slice_sublist_slice text (Nat.le_of_lt hopening) (Nat.le_of_lt hclosing)

/-- Every character that is left out has a byte at least. -/
theorem byteLength_of_sublist {part whole : List Char} (h : part.Sublist whole) :
    Text.byteLength part + (whole.length - part.length) ≤ Text.byteLength whole := by
  induction h with
  | slnil => exact Nat.le_refl _
  | cons c hsub ih =>
      have hlength := hsub.length_le
      have hbytes := Char.utf8Size_pos c
      rw [Text.byteLength_cons, List.length_cons]
      omega
  | cons_cons c _ ih =>
      rw [Text.byteLength_cons, Text.byteLength_cons, List.length_cons, List.length_cons]
      omega

/-- A text is a part of another one, and shorter. -/
def PartOf (part whole : List Char) : Prop := part.Sublist whole ∧ part.length < whole.length

/-- A shorter part has fewer bytes, too. -/
theorem PartOf.byteLength_lt {part whole : List Char} (h : PartOf part whole) :
    Text.byteLength part < Text.byteLength whole := by
  have hbytes := byteLength_of_sublist h.1
  have hlength := h.2
  omega

/-- The body of a block lacks the tags around it. -/
theorem body_partOf {block : Block} (h : block ∈ blocks text) : PartOf (block.body text) text := by
  obtain ⟨hopening, hbody, hclosing⟩ := spans_of_mem_blocks h
  have hstop := stop_le_length h
  constructor
  · exact (List.drop_sublist _ _).trans (List.take_sublist _ _)
  · rw [Block.body, Text.length_slice]
    omega

/-! ### The passes -/

/-- **The first pass only takes something away.** -/
theorem showConditionals_sublist (context : Json) (text : List Char) :
    (showConditionals context text).Sublist text := by
  induction hn : text.length using Nat.strongRecOn generalizing text with
  | ind n ih =>
      rw [showConditionals]
      refine splice_sublist fun block hblock replacement hexpand => ?_
      have hmem := (outerBlocks_sublist text).subset hblock
      split at hexpand
      · split at hexpand
        · split at hexpand
          · -- The guard is what the induction needs; where it is closed nothing is left at all.
            rename_i hlength
            cases hexpand
            exact (ih _ (hn ▸ hlength) _ rfl).trans (body_sublist_slice hmem)
          · cases hexpand
            exact List.nil_sublist _
        · cases hexpand
          exact List.nil_sublist _
      · cases hexpand

/-- The body of a loop that is found after the first pass is a part of the text from before it. -/
theorem loopBody_partOf (context : Json) (text : List Char) {block : Block}
    (h : block ∈ outerBlocks (marks (showConditionals context text))) :
    PartOf (block.body (showConditionals context text)) text := by
  have hshown := showConditionals_sublist context text
  obtain ⟨hsub, hlength⟩ := body_partOf ((outerBlocks_sublist _).subset h)
  exact ⟨hsub.trans hshown, Nat.lt_of_lt_of_le hlength hshown.length_le⟩

/-- What the first pass puts in the place of a block of a text. -/
def shownBlock (context : Json) (text : List Char) (block : Block) : Option (List Char) :=
  match block.kind with
  | .conditional =>
    some (if holds context block.argument then showConditionals context (block.body text) else [])
  | .loop => none

/-- The first pass goes into the body of every conditional block that is shown: the guard never
decides anything. -/
theorem showConditionals_unguarded (context : Json) (text : List Char) :
    showConditionals context text = splice text (shownBlock context text) := by
  rw [showConditionals]
  refine splice_congr fun block hblock => ?_
  have hlength := (body_partOf ((outerBlocks_sublist text).subset hblock)).2
  rw [shownBlock]
  cases block.kind with
  | loop => rfl
  | conditional =>
      simp only [if_pos hlength]
      split <;> rfl

/-- The bodies of loops are rendered like any other text: the guard never decides anything. -/
theorem renderScoped_unguarded (context : Json) (text : List Char) :
    renderScoped context text =
      substitute context (unrollLoops renderScoped context (showConditionals context text)) := by
  rw [renderScoped]
  refine congrArg (substitute context) (splice_congr fun block hblock => ?_)
  have hlength := (loopBody_partOf context text hblock).2
  cases block.kind with
  | conditional => rfl
  | loop => simp only [if_pos hlength]

/-- A text is rendered for the items of a loop of another one. -/
def IsLoopBody (text body : List Char) : Prop :=
  ∃ context, ∃ block ∈ outerBlocks (marks (showConditionals context text)), block.kind = .loop ∧
    body = block.body (showConditionals context text)

/-- Loops within loops end, at the length of the text at the latest. -/
theorem length_le_of_isChain {text : List Char} {bodies : List (List Char)}
    (h : List.IsChain IsLoopBody (text :: bodies)) : bodies.length ≤ text.length := by
  induction bodies generalizing text with
  | nil => exact Nat.zero_le _
  | cons body rest ih =>
      obtain ⟨⟨context, block, hblock, -, rfl⟩, hrest⟩ := List.isChain_cons_cons.mp h
      have hlength := (loopBody_partOf context text hblock).2
      have hbound := ih hrest
      rw [List.length_cons]
      omega

/-- **What the passes do to a text.** -/
structure RendersWithin (context : Json) (text : List Char) : Prop where
  /-- The first pass only takes something away. -/
  shown_sublist : (showConditionals context text).Sublist text
  /-- What is left after the first pass has no more bytes than the text. -/
  shown_byteLength : Text.byteLength (showConditionals context text) ≤ Text.byteLength text
  /-- The body of a block that is found after the first pass is shorter than the text. -/
  body_partOf : ∀ block ∈ outerBlocks (marks (showConditionals context text)),
    PartOf (block.body (showConditionals context text)) text
  /-- So it has fewer bytes, too. -/
  body_byteLength : ∀ block ∈ outerBlocks (marks (showConditionals context text)),
    Text.byteLength (block.body (showConditionals context text)) < Text.byteLength text
  /-- The first pass goes into every conditional block that is shown. -/
  shown_eq : showConditionals context text = splice text (shownBlock context text)
  /-- The second pass renders the bodies of loops like any other text. -/
  rendered_eq : renderScoped context text =
    substitute context (unrollLoops renderScoped context (showConditionals context text))

theorem rendersWithin (context : Json) (text : List Char) : RendersWithin context text where
  shown_sublist := showConditionals_sublist context text
  shown_byteLength := by
    have hbytes := byteLength_of_sublist (showConditionals_sublist context text)
    omega
  body_partOf := fun _ => loopBody_partOf context text
  body_byteLength := fun _ hblock => (loopBody_partOf context text hblock).byteLength_lt
  shown_eq := showConditionals_unguarded context text
  rendered_eq := renderScoped_unguarded context text

/-- **Blocks are laminar, and splicing is safe**, in any text.  The blocks lie as `Laminar` tells, and
splicing with any replacements does what `Spliced` tells.  The body of a block is shorter than the
text, and so is the body of a loop that is found after the first pass, which only takes something
away.  So no pass ever finds its guard closed, and loops within loops end, at the length of the text
at the latest. -/
theorem blocks_laminar (text : List Char) :
    Laminar text ∧ (∀ expand, Spliced text expand) ∧
    (∀ block ∈ blocks text, PartOf (block.body text) text) ∧
    (∀ context, RendersWithin context text) ∧
    ∀ bodies, List.IsChain IsLoopBody (text :: bodies) → bodies.length ≤ text.length :=
  ⟨laminar text, spliced text, fun _ => body_partOf, fun context => rendersWithin context text,
    fun _ => length_le_of_isChain⟩

end Rulebook.Template
