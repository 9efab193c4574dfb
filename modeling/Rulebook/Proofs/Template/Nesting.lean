/-
**How the blocks of a template lie within each other.**

The tags of any template, balanced or not, are gone through with a stack: an opening tag is put on
it, and a closing tag takes the top off if that is of its kind, and is passed over otherwise.  When
a block is closed, the opening tags that are left below its own are those that are still open.  This
module keeps them beside the block, where the search for blocks keeps their number only.  What it
shows needs no balance: two blocks are apart, or one of them lies inside the body of the other; and
an opening tag in front of a block is still open when the block is closed, or else it belongs to a
block that ends in front of it.

Main definitions:

* `Rulebook.Template.Laid` — tags that stand one behind the other;
* `Rulebook.Template.openMatches` — the blocks of a list of tags, each with the opening tags that
  are still open when it is closed;
* `Rulebook.Template.Block.Encloses` — a block has another one inside its body;
* `Rulebook.Template.blocks` — the blocks of a template in the order of their opening tags.

Main results:

* `Rulebook.Template.matchMarks_eq` — the depth of a block is the number of these opening tags;
* `Rulebook.Template.sublist_of_mem_openMatches` — where a block and its tags come from;
* `Rulebook.Template.pairwise_openMatches` — **any two blocks** are apart, or the one that is closed
  later has the other one inside its body;
* `Rulebook.Template.opening_cases` — **any opening tag and a block**: the tag is still open, or
  begins the block, or stands behind it, or belongs to a block that is in front or inside;
* `Rulebook.Template.pairwise_blocks` — the blocks of a template in order, apart or nested.
-/

import Mathlib.Data.List.Pairwise
import Rulebook.Proofs.Template.Balance

set_option autoImplicit false

namespace Rulebook.Template

/-! ### Tags in their places -/

/-- Tags that stand one behind the other, none of them empty. -/
structure Laid (ms : List Mark) : Prop where
  /-- A tag ends before the next one begins. -/
  apart : ms.Pairwise fun a b => a.span.stop ≤ b.span.start
  /-- A tag has a beginning before its end. -/
  start_lt_stop : ∀ mark ∈ ms, mark.span.start < mark.span.stop

theorem Laid.sublist {ms ms' : List Mark} (h : Laid ms) (hsub : ms'.Sublist ms) : Laid ms' :=
  ⟨h.apart.sublist hsub, fun mark hmark => h.start_lt_stop mark (hsub.subset hmark)⟩

/-- Without a tag that is passed over the others stand as before. -/
theorem Laid.passed {before behind : List Mark} {mark : Mark}
    (h : Laid (before ++ mark :: behind)) : Laid (before ++ behind) :=
  h.sublist ((List.Sublist.refl before).append (List.sublist_cons_self mark behind))

/-- What stands around two tags that follow each other. -/
theorem Laid.around {before behind : List Mark} {first second : Mark}
    (h : Laid (before ++ first :: second :: behind)) :
    (∀ mark ∈ before, mark.span.stop ≤ first.span.start) ∧ first.span.stop ≤ second.span.start ∧
      ∀ mark ∈ behind, second.span.stop ≤ mark.span.start := by
  obtain ⟨-, hright, hbefore⟩ := List.pairwise_append.mp h.apart
  obtain ⟨hfirst, hsecond⟩ := List.pairwise_cons.mp hright
  refine ⟨fun mark hmark => hbefore mark hmark first List.mem_cons_self, ?_, ?_⟩
  · exact hfirst second List.mem_cons_self
  · exact (List.pairwise_cons.mp hsecond).1

/-- The tags of a template stand one behind the other. -/
theorem laid_marks (text : List Char) : Laid (marks text) := by
  obtain ⟨hapart, hspans⟩ := Text.apart_placed Tag.read? text 0
  refine ⟨?_, fun mark hmark => ?_⟩
  · rw [marks, List.pairwise_map]
    exact hapart
  · obtain ⟨found, hfound, rfl⟩ := List.mem_map.mp hmark
    exact (hspans found hfound).2.1

/-! ### Blocks and the tags that are still open -/

/-- The blocks of the tags to come, in the order of their closing tags, after the opening tags on
the stack; each with the opening tags that lie below its own when it is closed. -/
def openMatches : List Mark → List Mark → List (List Mark × Block)
  | _, [] => []
  | stack, mark :: rest =>
    if mark.tag.isOpening then openMatches (mark :: stack) rest
    else
      match stack with
      | [] => openMatches [] rest
      | top :: below =>
        match Block.ofMarks? top mark with
        | some block => (below, block) :: openMatches below rest
        | none => openMatches (top :: below) rest

/-- **The depth of a block** is the number of opening tags that are still open when it is closed. -/
theorem matchMarks_eq (stack ms : List Mark) :
    matchMarks stack ms = (openMatches stack ms).map fun found => (found.1.length, found.2) := by
  fun_induction openMatches stack ms with
  | case1 stack => rfl
  | case2 stack mark rest hopening ih => rw [matchMarks.eq_def]; simp [hopening, ih]
  | case3 mark rest hclosing ih => rw [matchMarks.eq_def]; simp [hclosing, ih]
  | case4 mark rest hclosing top below block hblock ih =>
      rw [matchMarks.eq_def]; simp [hclosing, hblock, ih]
  | case5 mark rest hclosing top below hblock ih =>
      rw [matchMarks.eq_def]; simp [hclosing, hblock, ih]

/-- The spans of a block are those of its tags. -/
theorem Block.spans_of_ofMarks? {first second : Mark} {block : Block}
    (h : Block.ofMarks? first second = some block) :
    block.opening = first.span ∧ block.closing = second.span := by
  have hmarks := Block.marks_of_ofMarks? h
  rw [Block.marks, List.cons.injEq, List.cons.injEq] at hmarks
  obtain ⟨rfl, rfl, -⟩ := hmarks
  exact ⟨rfl, rfl⟩

/-- **Where a block comes from.**  Its closing tag is one of those to come, its opening tag is one
of them or on the stack, and the tags that are still open stand in front of both. -/
theorem sublist_of_mem_openMatches {stack ms : List Mark} {found : List Mark × Block}
    (h : found ∈ openMatches stack ms) :
    ∃ first second, Block.ofMarks? first second = some found.2 ∧ second ∈ ms ∧
      (found.1.reverse ++ [first, second]).Sublist (stack.reverse ++ ms) := by
  fun_induction openMatches stack ms with
  | case1 stack => cases h
  | case2 stack mark rest hopening ih =>
      obtain ⟨first, second, hblock, hsecond, hsub⟩ := ih h
      refine ⟨first, second, hblock, List.mem_cons_of_mem mark hsecond, ?_⟩
      simpa using hsub
  | case3 mark rest hclosing ih =>
      obtain ⟨first, second, hblock, hsecond, hsub⟩ := ih h
      exact ⟨first, second, hblock, List.mem_cons_of_mem mark hsecond,
        hsub.trans (List.sublist_cons_self mark rest)⟩
  | case4 mark rest hclosing top below block hblock ih =>
      rw [List.reverse_cons, List.append_assoc]
      obtain rfl | h := List.mem_cons.mp h
      · refine ⟨top, mark, hblock, List.mem_cons_self, ?_⟩
        exact (List.Sublist.refl _).append ((List.nil_sublist rest).cons_cons mark |>.cons_cons top)
      · obtain ⟨first, second, hother, hsecond, hsub⟩ := ih h
        refine ⟨first, second, hother, List.mem_cons_of_mem mark hsecond, hsub.trans ?_⟩
        exact (List.Sublist.refl _).append (List.sublist_append_right [top, mark] rest)
  | case5 mark rest hclosing top below hblock ih =>
      obtain ⟨first, second, hother, hsecond, hsub⟩ := ih h
      exact ⟨first, second, hother, List.mem_cons_of_mem mark hsecond,
        hsub.trans ((List.Sublist.refl _).append (List.sublist_cons_self mark rest))⟩

/-! ### Blocks within blocks -/

/-- A block has another one inside its body. -/
def Block.Encloses (outer inner : Block) : Prop :=
  outer.opening.stop ≤ inner.opening.start ∧ inner.closing.stop ≤ outer.closing.start

instance (outer inner : Block) : Decidable (outer.Encloses inner) :=
  inferInstanceAs (Decidable (_ ∧ _))

section Laid

variable {stack ms : List Mark} {found : List Mark × Block}

/-- The tags of a block stand one behind the other, and behind those that are still open. -/
theorem spans_of_mem_openMatches (h : Laid (stack.reverse ++ ms))
    (hfound : found ∈ openMatches stack ms) :
    (found.2.opening.start < found.2.opening.stop ∧
      found.2.opening.stop ≤ found.2.closing.start ∧
      found.2.closing.start < found.2.closing.stop) ∧
    ∀ mark ∈ found.1, mark.span.start < mark.span.stop ∧
      mark.span.stop ≤ found.2.opening.start := by
  obtain ⟨first, second, hblock, -, hsub⟩ := sublist_of_mem_openMatches hfound
  obtain ⟨hopening, hclosing⟩ := Block.spans_of_ofMarks? hblock
  have hlaid : Laid (found.1.reverse ++ [first, second]) := h.sublist hsub
  obtain ⟨hopen, horder, -⟩ := hlaid.around
  rw [hopening, hclosing]
  refine ⟨⟨hlaid.start_lt_stop first (by simp), horder, hlaid.start_lt_stop second (by simp)⟩, ?_⟩
  intro mark hmark
  have hmem : mark ∈ found.1.reverse := List.mem_reverse.mpr hmark
  exact ⟨hlaid.start_lt_stop mark (List.mem_append_left _ hmem), hopen mark hmem⟩

/-- When the top of the stack is taken off, what is left and what is to come stand around the block
that is closed. -/
theorem around_block {top mark : Mark} {below rest : List Mark} {block : Block}
    (h : Laid ((top :: below).reverse ++ mark :: rest))
    (hblock : Block.ofMarks? top mark = some block) :
    Laid (below.reverse ++ rest) ∧ block.opening.start < block.opening.stop ∧
      block.opening.stop ≤ block.closing.start ∧ block.closing.start < block.closing.stop ∧
      (∀ m ∈ below.reverse, m.span.stop ≤ block.opening.start) ∧
      ∀ m ∈ rest, block.closing.stop ≤ m.span.start := by
  obtain ⟨hopening, hclosing⟩ := Block.spans_of_ofMarks? hblock
  rw [List.reverse_cons, List.append_assoc, List.singleton_append] at h
  obtain ⟨hbefore, horder, hbehind⟩ := h.around
  rw [hopening, hclosing]
  refine ⟨h.sublist ?_, h.start_lt_stop top (by simp), horder, h.start_lt_stop mark (by simp),
    hbefore, hbehind⟩
  exact (List.Sublist.refl _).append (List.sublist_append_right [top, mark] rest)

/-- A block that is closed later begins behind this one, or has it inside its body. -/
theorem nested_of_later {top mark : Mark} {below rest : List Mark} {block : Block}
    (h : Laid ((top :: below).reverse ++ mark :: rest))
    (hblock : Block.ofMarks? top mark = some block) (hfound : found ∈ openMatches below rest) :
    block.closing.stop ≤ found.2.opening.start ∨ found.2.Encloses block := by
  obtain ⟨-, -, -, -, hbelow, hrest⟩ := around_block h hblock
  obtain ⟨first, second, hmarks, hsecond, hsub⟩ := sublist_of_mem_openMatches hfound
  obtain ⟨hopening, hclosing⟩ := Block.spans_of_ofMarks? hmarks
  have hfirst : first ∈ below.reverse ++ rest := hsub.subset (by simp)
  rw [Block.Encloses, hopening, hclosing]
  obtain hmem | hmem := List.mem_append.mp hfirst
  · exact Or.inr ⟨hbelow first hmem, hrest second hsecond⟩
  · exact Or.inl (hrest first hmem)

/-- **Any two blocks.**  The one that is closed later begins behind the other one, or has it inside
its body. -/
theorem pairwise_openMatches (h : Laid (stack.reverse ++ ms)) :
    (openMatches stack ms).Pairwise fun f g =>
      f.2.closing.stop ≤ g.2.opening.start ∨ g.2.Encloses f.2 := by
  fun_induction openMatches stack ms with
  | case1 stack => exact List.Pairwise.nil
  | case2 stack mark rest hopening ih => exact ih (by simpa using h)
  | case3 mark rest hclosing ih => exact ih (Laid.passed h)
  | case4 mark rest hclosing top below block hblock ih =>
      have hlater := ih (around_block h hblock).1
      exact List.Pairwise.cons (fun g hg => nested_of_later h hblock hg) hlater
  | case5 mark rest hclosing top below hblock ih => exact ih h.passed

/-! ### Blocks and opening tags -/

/-- The opening tag of a block is not open any more when a later block is closed. -/
theorem ne_opening_of_later {top mark : Mark} {below rest : List Mark} {block : Block}
    (h : Laid ((top :: below).reverse ++ mark :: rest))
    (hblock : Block.ofMarks? top mark = some block) (hfound : found ∈ openMatches below rest)
    {other : Mark} (hother : other ∈ found.1) : block.opening ≠ other.span := by
  intro heq
  obtain ⟨hlaid, -, horder, hstop, hbelow, hrest⟩ := around_block h hblock
  obtain ⟨first, second, -, -, hsub⟩ := sublist_of_mem_openMatches hfound
  have hmem : other ∈ below.reverse ++ rest := hsub.subset (by simp [hother])
  have hlength := hlaid.start_lt_stop other hmem
  -- What is left of the stack ends in front of the block, and what is to come begins behind it.
  rw [heq] at hbelow horder
  obtain hmem | hmem := List.mem_append.mp hmem
  · have hfront := hbelow other hmem
    omega
  · have hbehind := hrest other hmem
    omega

/-- A block whose opening tag is still open when another one is closed has that inside its body. -/
theorem encloses_of_mem_opened (h : Laid (stack.reverse ++ ms))
    (hfound : found ∈ openMatches stack ms) {outer : List Mark × Block}
    (houter : outer ∈ openMatches stack ms) {mark : Mark} (hmark : mark ∈ found.1)
    (hspan : outer.2.opening = mark.span) : outer.2.Encloses found.2 := by
  have hfront := (spans_of_mem_openMatches h hfound).2 mark hmark
  fun_induction openMatches stack ms with
  | case1 stack => cases hfound
  | case2 stack next rest hnext ih => exact ih (by simpa using h) hfound houter
  | case3 next rest hclosing ih => exact ih (Laid.passed h) hfound houter
  | case4 next rest hclosing top below block hblock ih =>
      obtain ⟨hlaid, hstart, horder, hstop, -, -⟩ := around_block h hblock
      obtain rfl | hlater := List.mem_cons.mp hfound
      · replace hfront : mark.span.start < mark.span.stop ∧
          mark.span.stop ≤ block.opening.start := hfront
        obtain rfl | houter := List.mem_cons.mp houter
        · replace hspan : block.opening = mark.span := hspan
          rw [← hspan] at hfront
          omega
        · refine (nested_of_later h hblock houter).resolve_left fun hbehind => ?_
          rw [hspan] at hbehind
          omega
      · obtain rfl | houter := List.mem_cons.mp houter
        · exact absurd hspan (ne_opening_of_later h hblock hlater hmark)
        · exact ih hlaid hlater houter
  | case5 next rest hclosing top below hblock ih => exact ih h.passed hfound houter

theorem mem_of_mem_append_cons {before rest : List Mark} {mark next : Mark}
    (hmark : mark ∈ before ++ next :: rest) (hopening : mark.tag.isOpening = true)
    (hclosing : ¬ next.tag.isOpening = true) : mark ∈ before ++ rest := by
  simp only [List.mem_append, List.mem_cons] at hmark ⊢
  obtain hmark | rfl | hmark := hmark
  · exact Or.inl hmark
  · exact absurd hopening hclosing
  · exact Or.inr hmark

/-- **An opening tag beside a block** is still open when the block is closed, or it is the one that
begins the block, or stands behind it; or else it belongs to another block, which ends in front of
this one or lies inside of it. -/
theorem opening_cases (h : Laid (stack.reverse ++ ms)) (hfound : found ∈ openMatches stack ms)
    {mark : Mark} (hmark : mark ∈ stack.reverse ++ ms) (hopening : mark.tag.isOpening = true) :
    mark ∈ found.1 ∨ found.2.opening = mark.span ∨ found.2.closing.stop ≤ mark.span.start ∨
      ∃ other ∈ openMatches stack ms, other.2.opening = mark.span ∧
        (other.2.closing.stop ≤ found.2.opening.start ∨ found.2.Encloses other.2) := by
  fun_induction openMatches stack ms with
  | case1 stack => cases hfound
  | case2 stack next rest hnext ih =>
      exact ih (by simpa using h) hfound (by simpa using hmark)
  | case3 next rest hclosing ih =>
      exact ih (Laid.passed h) hfound (mem_of_mem_append_cons hmark hopening hclosing)
  | case4 next rest hclosing top below block hblock ih =>
      obtain ⟨hlaid, -, -, -, -, hrest⟩ := around_block h hblock
      obtain ⟨hspan, -⟩ := Block.spans_of_ofMarks? hblock
      have hwhere := mem_of_mem_append_cons hmark hopening hclosing
      rw [List.reverse_cons, List.append_assoc, List.singleton_append,
        List.perm_middle.mem_iff, List.mem_cons] at hwhere
      obtain rfl | hfound := List.mem_cons.mp hfound
      · -- It is this block that is closed: the tags below its own are open, the others to come.
        obtain rfl | hmem := hwhere
        · exact Or.inr (Or.inl hspan)
        · obtain hmem | hmem := List.mem_append.mp hmem
          · exact Or.inl (List.mem_reverse.mp hmem)
          · exact Or.inr (Or.inr (Or.inl (hrest mark hmem)))
      · obtain rfl | hmem := hwhere
        · have hnested := nested_of_later h hblock hfound
          exact Or.inr (Or.inr (Or.inr ⟨(below, block), List.mem_cons_self, hspan, hnested⟩))
        · refine (ih hlaid hfound hmem).imp_right (Or.imp_right (Or.imp_right ?_))
          rintro ⟨other, hother, hnested⟩
          exact ⟨other, List.mem_cons_of_mem _ hother, hnested⟩
  | case5 next rest hclosing top below hblock ih =>
      exact ih h.passed hfound (mem_of_mem_append_cons hmark hopening hclosing)

end Laid

/-- What is still open has been opened. -/
theorem isOpening_of_mem_openMatches {stack ms : List Mark} {found : List Mark × Block}
    (hstack : ∀ mark ∈ stack, mark.tag.isOpening = true) (hfound : found ∈ openMatches stack ms) :
    ∀ mark ∈ found.1, mark.tag.isOpening = true := by
  fun_induction openMatches stack ms with
  | case1 stack => cases hfound
  | case2 stack next rest hnext ih => exact ih (List.forall_mem_cons.mpr ⟨hnext, hstack⟩) hfound
  | case3 next rest hclosing ih => exact ih hstack hfound
  | case4 next rest hclosing top below block hblock ih =>
      have hbelow : ∀ mark ∈ below, mark.tag.isOpening = true :=
        (List.forall_mem_cons.mp hstack).2
      obtain rfl | hfound := List.mem_cons.mp hfound
      · exact hbelow
      · exact ih hbelow hfound
  | case5 next rest hclosing top below hblock ih => exact ih hstack hfound

/-! ### The blocks of a template -/

/-- The blocks of a template, in the order of their opening tags. -/
def blocks (text : List Char) : List Block := (matchedBlocks (marks text)).map Prod.snd

section Blocks

variable {text : List Char} {opened : List Mark} {block : Block}

theorem laid_stack (text : List Char) : Laid (([] : List Mark).reverse ++ marks text) :=
  laid_marks text

/-- The depth of a block is the number of opening tags that are still open when it is closed. -/
theorem mem_matchedBlocks_iff {ms : List Mark} {found : Nat × Block} :
    found ∈ matchedBlocks ms ↔
      ∃ opened, (opened, found.2) ∈ openMatches [] ms ∧ found.1 = opened.length := by
  obtain ⟨depth, block⟩ := found
  rw [matchedBlocks, List.mem_mergeSort, matchMarks_eq, List.mem_map]
  constructor
  · rintro ⟨⟨opened, other⟩, hmem, heq⟩
    obtain ⟨rfl, rfl⟩ := Prod.mk.inj heq
    exact ⟨opened, hmem, rfl⟩
  · rintro ⟨opened, hmem, rfl⟩
    exact ⟨(opened, block), hmem, rfl⟩

theorem mem_blocks_iff :
    block ∈ blocks text ↔ ∃ opened, (opened, block) ∈ openMatches [] (marks text) := by
  rw [blocks, List.mem_map]
  constructor
  · rintro ⟨found, hfound, rfl⟩
    obtain ⟨opened, hmem, -⟩ := mem_matchedBlocks_iff.mp hfound
    exact ⟨opened, hmem⟩
  · rintro ⟨opened, hmem⟩
    exact ⟨(opened.length, block), mem_matchedBlocks_iff.mpr ⟨opened, hmem, rfl⟩, rfl⟩

/-- The blocks of a template are those that the stack finds, in another order. -/
theorem perm_blocks (text : List Char) :
    (blocks text).Perm ((openMatches [] (marks text)).map Prod.snd) := by
  have hsnd : (matchMarks [] (marks text)).map Prod.snd =
      (openMatches [] (marks text)).map Prod.snd := by
    rw [matchMarks_eq, List.map_map]
    rfl
  rw [← hsnd]
  exact (List.mergeSort_perm _ _).map Prod.snd

/-- The tags of a block are tags of the template. -/
theorem sublist_marks_of_mem_blocks (h : block ∈ blocks text) :
    block.marks.Sublist (marks text) := by
  obtain ⟨opened, hmem⟩ := mem_blocks_iff.mp h
  obtain ⟨first, second, hblock, -, hsub⟩ := sublist_of_mem_openMatches hmem
  rw [Block.marks_of_ofMarks? hblock]
  exact (List.sublist_append_right opened.reverse _).trans hsub

/-- The tags of a block stand one behind the other. -/
theorem spans_of_mem_blocks (h : block ∈ blocks text) :
    block.opening.start < block.opening.stop ∧ block.opening.stop ≤ block.closing.start ∧
      block.closing.start < block.closing.stop := by
  obtain ⟨opened, hmem⟩ := mem_blocks_iff.mp h
  exact (spans_of_mem_openMatches (laid_stack text) hmem).1

/-- The tags that are still open when a block is closed stand in front of it. -/
theorem front_of_mem_opened (h : (opened, block) ∈ openMatches [] (marks text)) {mark : Mark}
    (hmark : mark ∈ opened) :
    mark.span.start < mark.span.stop ∧ mark.span.stop ≤ block.opening.start :=
  (spans_of_mem_openMatches (laid_stack text) h).2 mark hmark

/-- Where an opening tag of a template stands beside a block. -/
theorem opening_cases_blocks (h : (opened, block) ∈ openMatches [] (marks text)) {mark : Mark}
    (hmark : mark ∈ marks text) (hopening : mark.tag.isOpening = true) :
    mark ∈ opened ∨ block.opening = mark.span ∨ block.closing.stop ≤ mark.span.start ∨
      ∃ other ∈ blocks text, other.opening = mark.span ∧
        (other.closing.stop ≤ block.opening.start ∨ block.Encloses other) := by
  refine (opening_cases (laid_stack text) h hmark hopening).imp_right
    (Or.imp_right (Or.imp_right ?_))
  rintro ⟨⟨below, other⟩, hother, hwhere⟩
  exact ⟨other, mem_blocks_iff.mpr ⟨below, hother⟩, hwhere⟩

/-- **The blocks of a template** come in the order of their opening tags, and of any two of them the
second begins behind the first or lies inside its body. -/
theorem pairwise_blocks (text : List Char) :
    (blocks text).Pairwise fun a b => a.opening.start < b.opening.start ∧
      (a.closing.stop ≤ b.opening.start ∨ a.Encloses b) := by
  have hnested : (blocks text).Pairwise fun a b =>
      (a.closing.stop ≤ b.opening.start ∨ b.Encloses a) ∨
        (b.closing.stop ≤ a.opening.start ∨ a.Encloses b) := by
    refine (perm_blocks text).symm.pairwise ?_ Or.symm
    rw [List.pairwise_map]
    exact (pairwise_openMatches (laid_stack text)).imp Or.inl
  have hsorted : (blocks text).Pairwise fun a b => a.opening.start ≤ b.opening.start := by
    rw [blocks, matchedBlocks, List.pairwise_map]
    refine (List.pairwise_mergeSort ?_ ?_ (matchMarks [] (marks text))).imp of_decide_eq_true
    · intro a b c hab hbc
      simp only [decide_eq_true_eq] at hab hbc ⊢
      omega
    · intro a b
      simp only [Bool.or_eq_true, decide_eq_true_eq]
      omega
  refine (hnested.and hsorted).imp_of_mem fun {a b} ha hb h => ?_
  obtain ⟨hab, hle⟩ := h
  have hspans := spans_of_mem_blocks ha
  have hspans' := spans_of_mem_blocks hb
  unfold Block.Encloses at hab ⊢
  omega

/-- A tag opens one block only. -/
theorem eq_of_opening_eq {other : Block} (h : block ∈ blocks text) (hother : other ∈ blocks text)
    (heq : block.opening = other.opening) : block = other := by
  by_contra hne
  have heither : (blocks text).Pairwise fun a b => a.opening.start ≠ b.opening.start :=
    (pairwise_blocks text).imp fun hab => Nat.ne_of_lt hab.1
  have hsymm : Std.Symm fun a b : Block => a.opening.start ≠ b.opening.start :=
    ⟨fun _ _ => Ne.symm⟩
  exact heither.forall h hother hne (by rw [heq])

end Blocks

end Rulebook.Template
