/-
**Which blocks are expanded.**

A template is spliced by replacing its outer blocks, and the outer blocks are those that are closed
at depth zero.  The depth counts the opening tags on the stack, and an opening tag without a partner
stays on it up to the end.  So such a tag does not only stay as text itself.  It keeps the depth of
every block behind it above zero, and none of these is expanded, although no block is around it;
what stands in front of the tag is not touched by it.  A closing tag without a partner does no harm.

Main definitions:

* `Rulebook.Template.unenclosed` — the blocks of a template that lie in no other one;
* `Rulebook.Template.loneOpenings` — the opening tags of a template that belong to no block.

Main results:

* `Rulebook.Template.depth_zero_iff` — a block is closed at depth zero exactly if it lies in no
  other block and no lone opening tag stands in front of it;
* `Rulebook.Template.outerBlocks_exact` — **the blocks that are offered** are those that lie in no
  other block, in order, up to the first lone opening tag; these are all of them exactly if no block
  stands behind such a tag;
* `Rulebook.Template.exists_splice_eq` — from a lone opening tag on, a template stays as it is;
* `Rulebook.Template.not_always_offered` — a block that lies in no other one and is left as text.
-/

import Rulebook.Proofs.Template.Nesting
import Rulebook.Template.Render

set_option autoImplicit false

namespace Rulebook.Template

/-! ### Blocks and tags that stand alone -/

/-- The blocks of a template that lie in no other block, in order. -/
def unenclosed (text : List Char) : List Block :=
  (blocks text).filter fun block => decide (∀ outer ∈ blocks text, ¬ outer.Encloses block)

/-- The opening tags of a template that belong to no block. -/
def loneOpenings (text : List Char) : List Mark :=
  (marks text).filter fun mark =>
    mark.tag.isOpening && decide (∀ block ∈ blocks text, block.opening ≠ mark.span)

section Tags

variable {text : List Char} {opened : List Mark} {block : Block} {mark : Mark}

theorem mem_unenclosed_iff :
    block ∈ unenclosed text ↔
      block ∈ blocks text ∧ ∀ outer ∈ blocks text, ¬ outer.Encloses block := by
  rw [unenclosed, List.mem_filter, decide_eq_true_iff]

theorem mem_loneOpenings_iff :
    mark ∈ loneOpenings text ↔ mark ∈ marks text ∧ mark.tag.isOpening = true ∧
      ∀ block ∈ blocks text, block.opening ≠ mark.span := by
  rw [loneOpenings, List.mem_filter, Bool.and_eq_true, decide_eq_true_iff]

/-- Every block lies in one that lies in no other, if it is not such a block itself. -/
theorem exists_unenclosed {block : Block} (h : block ∈ blocks text) :
    ∃ outer ∈ unenclosed text, outer = block ∨ outer.Encloses block := by
  by_cases hfree : ∀ outer ∈ blocks text, ¬ outer.Encloses block
  · exact ⟨block, mem_unenclosed_iff.mpr ⟨h, hfree⟩, Or.inl rfl⟩
  · push Not at hfree
    obtain ⟨outer, houter, hencloses⟩ := hfree
    have hspans := spans_of_mem_blocks houter
    have hlt : outer.opening.start < block.opening.start := by
      have hfront := hencloses.1
      omega
    obtain ⟨outermost, hmem, rfl | hround⟩ := exists_unenclosed houter
    · exact ⟨outermost, hmem, Or.inr hencloses⟩
    · refine ⟨outermost, hmem, Or.inr ?_⟩
      unfold Block.Encloses at hencloses hround ⊢
      omega
termination_by block.opening.start

/-- A lone opening tag stands in front of a block or behind it. -/
theorem lone_apart (hlone : mark ∈ loneOpenings text) (h : block ∈ blocks text) :
    mark.span.start < block.opening.start ∨ block.closing.stop ≤ mark.span.start := by
  obtain ⟨hmark, hopening, hnone⟩ := mem_loneOpenings_iff.mp hlone
  obtain ⟨opened, hfound⟩ := mem_blocks_iff.mp h
  obtain hopen | heq | hbehind | ⟨other, hother, hspan, -⟩ :=
    opening_cases_blocks hfound hmark hopening
  · have hfront := front_of_mem_opened hfound hopen
    exact Or.inl (Nat.lt_of_lt_of_le hfront.1 hfront.2)
  · exact absurd heq (hnone block h)
  · exact Or.inr hbehind
  · exact absurd hspan (hnone other hother)

/-! ### Depth -/

/-- A block that lies in another one is closed while that is open. -/
theorem not_encloses_of_depth_zero (hfound : ([], block) ∈ openMatches [] (marks text))
    {outer : Block} (houter : outer ∈ blocks text) : ¬ outer.Encloses block := by
  intro hencloses
  have hspans := spans_of_mem_blocks houter
  have hspans' := spans_of_mem_blocks (mem_blocks_iff.mpr ⟨[], hfound⟩)
  have htag : ⟨.opening outer.kind outer.argument, outer.opening⟩ ∈ marks text :=
    (sublist_marks_of_mem_blocks houter).subset (by simp [Block.marks])
  unfold Block.Encloses at hencloses
  obtain hopen | heq | hbehind | ⟨other, hother, hspan, hnested⟩ :=
    opening_cases_blocks hfound htag rfl
  · cases hopen
  · rw [heq] at hencloses
    replace hencloses : outer.opening.stop ≤ outer.opening.start := hencloses.1
    omega
  · replace hbehind : block.closing.stop ≤ outer.opening.start := hbehind
    omega
  · obtain rfl := eq_of_opening_eq hother houter hspan
    unfold Block.Encloses at hnested
    omega

/-- A tag that is still open when a block is closed stands alone or belongs to a block around. -/
theorem lone_or_encloses (hfound : (opened, block) ∈ openMatches [] (marks text))
    (hmark : mark ∈ opened) :
    mark ∈ loneOpenings text ∨ ∃ outer ∈ blocks text, outer.Encloses block := by
  obtain ⟨first, second, -, -, hsub⟩ := sublist_of_mem_openMatches hfound
  have htag : mark ∈ marks text := hsub.subset (by simp [hmark])
  have hopening := isOpening_of_mem_openMatches (by simp) hfound mark hmark
  by_cases hnone : ∀ other ∈ blocks text, other.opening ≠ mark.span
  · exact Or.inl (mem_loneOpenings_iff.mpr ⟨htag, hopening, hnone⟩)
  · push Not at hnone
    obtain ⟨outer, houter, hspan⟩ := hnone
    obtain ⟨below, hbelow⟩ := mem_blocks_iff.mp houter
    exact Or.inr ⟨outer, houter, encloses_of_mem_opened (laid_stack text) hfound hbelow hmark hspan⟩

/-- **A block is closed at depth zero** exactly if it lies in no other block and no lone opening tag
stands in front of it. -/
theorem depth_zero_iff (hfound : (opened, block) ∈ openMatches [] (marks text)) :
    opened = [] ↔ (∀ outer ∈ blocks text, ¬ outer.Encloses block) ∧
      ∀ mark ∈ loneOpenings text, block.opening.start < mark.span.start := by
  constructor
  · rintro rfl
    refine ⟨fun outer houter => not_encloses_of_depth_zero hfound houter, fun mark hlone => ?_⟩
    obtain ⟨hmark, hopening, hnone⟩ := mem_loneOpenings_iff.mp hlone
    have hblock : block ∈ blocks text := mem_blocks_iff.mpr ⟨[], hfound⟩
    have hspans := spans_of_mem_blocks hblock
    obtain hopen | heq | hbehind | ⟨other, hother, hspan, -⟩ :=
      opening_cases_blocks hfound hmark hopening
    · cases hopen
    · exact absurd heq (hnone block hblock)
    · omega
    · exact absurd hspan (hnone other hother)
  · rintro ⟨hfree, hfront⟩
    by_contra hne
    obtain ⟨mark, rest, rfl⟩ := List.exists_cons_of_ne_nil hne
    obtain hlone | ⟨outer, houter, hencloses⟩ := lone_or_encloses hfound List.mem_cons_self
    · have hbefore := front_of_mem_opened hfound List.mem_cons_self
      have hbehind := hfront mark hlone
      omega
    · exact hfree outer houter hencloses

/-! ### The blocks that are offered -/

/-- The blocks of depth zero, as a part of those that lie in no other. -/
theorem outerBlocks_eq_filter (text : List Char) :
    outerBlocks (marks text) = (unenclosed text).filter fun block =>
      decide (∀ mark ∈ loneOpenings text, block.opening.start < mark.span.start) := by
  rw [outerBlocks, unenclosed, List.filter_filter, blocks, List.filter_map]
  congr 1
  refine List.filter_congr fun found hfound => ?_
  obtain ⟨opened, hopened, hdepth⟩ := mem_matchedBlocks_iff.mp hfound
  have hiff := depth_zero_iff hopened
  rw [← List.length_eq_zero_iff, ← hdepth] at hiff
  rw [Bool.eq_iff_iff]
  simp only [beq_iff_eq, hiff, Function.comp_apply, Bool.and_eq_true, decide_eq_true_eq, blocks]
  exact And.comm

/-- Blocks that lie in no other follow each other. -/
theorem pairwise_unenclosed (text : List Char) :
    (unenclosed text).Pairwise fun a b => a.closing.stop ≤ b.opening.start := by
  have hpairs := (pairwise_blocks text).filter fun block =>
    decide (∀ outer ∈ blocks text, ¬ outer.Encloses block)
  refine List.Pairwise.imp_of_mem (fun {a b} ha hb hab => ?_) hpairs
  exact hab.2.resolve_right ((mem_unenclosed_iff.mp hb).2 a (mem_unenclosed_iff.mp ha).1)

/-- If the blocks that are offered are all that lie in no other, no block at all stands behind a
lone opening tag: a block around it would have to stand in front of the tag, and end behind it. -/
theorem start_lt_of_outerBlocks_eq (h : outerBlocks (marks text) = unenclosed text)
    (hlone : mark ∈ loneOpenings text) (hblock : block ∈ blocks text) :
    block.opening.start < mark.span.start := by
  have hspans := spans_of_mem_blocks hblock
  obtain hfront | hbehind := lone_apart hlone hblock
  · obtain ⟨outer, houter, hround⟩ := exists_unenclosed hblock
    have hmem := houter
    rw [← h, outerBlocks_eq_filter, List.mem_filter, decide_eq_true_iff] at hmem
    have hbefore := hmem.2 mark hlone
    obtain hapart | hapart := lone_apart hlone (mem_unenclosed_iff.mp houter).1
    · omega
    · obtain rfl | hround := hround
      · omega
      · have hend := hround.2
        have hspans' := spans_of_mem_blocks (mem_unenclosed_iff.mp houter).1
        omega
  · omega

/-- **The blocks that are offered for expansion**, in any template.  They are those that lie in no
other block, one behind the other as in the text, as far as they stand in front of every lone
opening tag.  So they are all the blocks that lie in no other exactly if no block stands behind such
a tag. -/
theorem outerBlocks_exact (text : List Char) :
    (outerBlocks (marks text) = (unenclosed text).filter fun block =>
      decide (∀ mark ∈ loneOpenings text, block.opening.start < mark.span.start)) ∧
    ((unenclosed text).Pairwise fun a b => a.closing.stop ≤ b.opening.start) ∧
    (outerBlocks (marks text) = unenclosed text ↔
      ∀ mark ∈ loneOpenings text, ∀ block ∈ blocks text,
        block.opening.start < mark.span.start) := by
  refine ⟨outerBlocks_eq_filter text, pairwise_unenclosed text, ?_, ?_⟩
  · intro h mark hlone block hblock
    exact start_lt_of_outerBlocks_eq h hlone hblock
  · intro h
    rw [outerBlocks_eq_filter, List.filter_eq_self]
    intro block hblock
    exact decide_eq_true fun mark hlone => h mark hlone block (mem_unenclosed_iff.mp hblock).1

/-- A condition that is never closed, and a complete block behind it. -/
def strayCondition : String := 
  Text.braced "#if a" ++ Text.braced "#if b" ++ "yes" ++ Text.braced "/if"

/-- **Not every block that lies in no other one is offered.**  The block behind the stray tag is not
enclosed, yet it stays as text although its condition holds. -/
theorem not_always_offered :
    (¬ ∀ text, outerBlocks (marks text) = unenclosed text) ∧
      render strayCondition (.object [("b", .bool true)]) = strayCondition := by
  refine ⟨fun h => ?_, by decide +kernel⟩
  exact absurd (h strayCondition.toList) (by decide +kernel)

/-! ### What stays as it is -/

theorem slice_append_drop (text : List Char) {start stop : Nat} (h : start ≤ stop) :
    Text.slice text start stop ++ text.drop stop = text.drop start := by
  have hdrop : text.drop stop = (text.drop start).drop (stop - start) := by
    rw [List.drop_drop, Nat.add_sub_cancel' h]
  rw [Text.slice, List.drop_take, hdrop, List.take_append_drop]

/-- Splicing keeps what stands behind the blocks. -/
theorem exists_spliceFrom_eq (expand : Block → Option (List Char)) {place stop : Nat}
    (hplace : place ≤ stop) {found : List Block}
    (hfound : ∀ block ∈ found, block.closing.stop ≤ stop) :
    ∃ shown, spliceFrom text expand place found = shown ++ text.drop stop := by
  induction found generalizing place with
  | nil => exact ⟨Text.slice text place stop, (slice_append_drop text hplace).symm⟩
  | cons block rest ih =>
      obtain ⟨hblock, hrest⟩ := List.forall_mem_cons.mp hfound
      rw [spliceFrom]
      split
      · rename_i replacement _
        obtain ⟨shown, hshown⟩ := ih hblock hrest
        refine ⟨Text.slice text place block.opening.start ++ replacement ++ shown, ?_⟩
        rw [hshown, List.append_assoc _ shown]
      · exact ih hplace hrest

/-- **From a lone opening tag on** a template stays as it is, whatever blocks are replaced by. -/
theorem exists_splice_eq (expand : Block → Option (List Char)) (hlone : mark ∈ loneOpenings text) :
    ∃ shown, splice text expand = shown ++ text.drop mark.span.start := by
  refine exists_spliceFrom_eq expand (Nat.zero_le _) fun block hblock => ?_
  rw [outerBlocks_eq_filter, List.mem_filter, decide_eq_true_iff] at hblock
  have hfront := hblock.2 mark hlone
  obtain hapart | hapart := lone_apart hlone (mem_unenclosed_iff.mp hblock.1).1
  · omega
  · exact hapart

end Tags

end Rulebook.Template
