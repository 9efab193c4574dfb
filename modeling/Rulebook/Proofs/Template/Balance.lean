/-
**Balanced tags and their blocks.**

The tags of a template are the brackets of a word with two kinds of brackets.  Such a word is
balanced if it is empty, or if it begins with an opening tag, a balanced word, and a closing tag of
the same kind, and goes on with a balanced word.  A stack is a way of telling whether a word is
balanced, and the same stack finds the blocks: in a balanced word no tag is passed over and none is
left on the stack, so the tags of the blocks are the tags of the template, each once.

Main definitions:

* `Rulebook.Template.Nests` — lists of tags that a stack gets through;
* `Rulebook.Template.Balanced` — balanced lists of tags;
* `Rulebook.Template.Block.marks` — the two tags of a block.

Main results:

* `Rulebook.Template.nests_nil_iff_balanced` — the stack gets through a list of tags exactly if it
  is balanced;
* `Rulebook.Template.perm_marks_matchedBlocks` — the tags of the blocks are those of the template;
* `Rulebook.Template.countP_matchedBlocks` — **every tag is in exactly one block**.
-/

import Mathlib.Data.List.Nodup
import Rulebook.Proofs.Template.Reading
import Rulebook.Template.Block

set_option autoImplicit false

namespace Rulebook.Template

/-! ### Balanced words -/

/-- Every closing tag closes the innermost open block, and no block is open at the end.  The kinds
of the blocks that are open at the beginning are given, innermost first. -/
def Nests : List BlockKind → List Tag → Prop
  | stack, [] => stack = []
  | stack, .opening kind _ :: rest => Nests (kind :: stack) rest
  | [], .closing _ :: _ => False
  | top :: below, .closing kind :: rest => kind = top ∧ Nests below rest

/-- Every closing tag closes the last opening tag that is open, which is of its kind, and none stays
open. -/
inductive Balanced : List Tag → Prop where
  | nil : Balanced []
  | block (kind : BlockKind) (argument : List Char) {body rest : List Tag} :
      Balanced body → Balanced rest →
        Balanced (.opening kind argument :: (body ++ .closing kind :: rest))

/-- A balanced word leaves the stack as it was, whatever follows. -/
theorem Balanced.nests_append {word : List Tag} (h : Balanced word) {stack : List BlockKind}
    {more : List Tag} (hmore : Nests stack more) : Nests stack (word ++ more) := by
  induction h generalizing stack more with
  | nil => exact hmore
  | block kind argument _ _ ihbody ihrest =>
      have hclosing : Nests (kind :: stack) (.closing kind :: (_ ++ more)) :=
        ⟨rfl, ihrest hmore⟩
      simpa [Nests] using ihbody hclosing

/-- What the stack gets through begins with a balanced word, which goes to the end, or to the tag
that closes the top of the stack. -/
theorem exists_balanced_of_nests {stack : List BlockKind} {tags : List Tag}
    (h : Nests stack tags) :
    ∃ word, Balanced word ∧ ((stack = [] ∧ tags = word) ∨
      ∃ top below rest, stack = top :: below ∧ tags = word ++ .closing top :: rest ∧
        Nests below rest) := by
  induction hn : tags.length using Nat.strongRecOn generalizing stack tags with
  | ind n ih =>
      cases tags with
      | nil =>
          obtain rfl : stack = [] := h
          exact ⟨[], .nil, Or.inl ⟨rfl, rfl⟩⟩
      | cons tag tags =>
          rw [List.length_cons] at hn
          cases tag with
          | opening kind argument =>
              -- The body goes up to the tag that closes this one, and the word goes on behind it.
              have hinner : Nests (kind :: stack) tags := h
              obtain ⟨body, hbody, hend | ⟨top, below, behind, hstack, rfl, hbehind⟩⟩ :=
                ih tags.length (by omega) hinner rfl
              · cases hend.1
              · obtain ⟨rfl, rfl⟩ := List.cons.inj hstack
                rw [List.length_append, List.length_cons] at hn
                obtain ⟨word, hword, hrest⟩ := ih behind.length (by omega) hbehind rfl
                refine ⟨_, .block kind argument hbody hword, ?_⟩
                rcases hrest with ⟨rfl, rfl⟩ | ⟨top, below, rest, rfl, rfl, hrest⟩
                · exact Or.inl ⟨rfl, rfl⟩
                · exact Or.inr ⟨top, below, rest, rfl, by simp, hrest⟩
          | closing kind =>
              cases stack with
              | nil => exact h.elim
              | cons top below =>
                  obtain ⟨rfl, hrest⟩ := h
                  exact ⟨[], .nil, Or.inr ⟨kind, below, tags, rfl, rfl, hrest⟩⟩

/-- **The stack gets through a list of tags exactly if it is balanced.** -/
theorem nests_nil_iff_balanced {tags : List Tag} : Nests [] tags ↔ Balanced tags := by
  constructor
  · intro h
    obtain ⟨word, hword, ⟨-, rfl⟩ | ⟨top, below, rest, hstack, -⟩⟩ := exists_balanced_of_nests h
    · exact hword
    · cases hstack
  · intro h
    have hend : Nests [] [] := rfl
    simpa using h.nests_append hend

/-! ### The tags of blocks -/

/-- The two tags of a block. -/
def Block.marks (block : Block) : List Mark :=
  [⟨.opening block.kind block.argument, block.opening⟩, ⟨.closing block.kind, block.closing⟩]

theorem Block.marks_of_ofMarks? {first second : Mark} {block : Block}
    (h : Block.ofMarks? first second = some block) : block.marks = [first, second] := by
  obtain ⟨tag, span⟩ := first
  obtain ⟨tag', span'⟩ := second
  unfold Block.ofMarks? at h
  split at h
  · rename_i kind argument kind' hfirst hsecond
    split at h
    · rename_i hkind
      obtain rfl : tag = .opening kind argument := hfirst
      obtain rfl : tag' = .closing kind' := hsecond
      subst hkind
      cases h
      rfl
    · cases h
  · cases h

/-- A closing tag makes a block with an opening tag of its kind. -/
theorem Block.isSome_ofMarks? {first second : Mark} (hfirst : first.tag.isOpening = true)
    (hsecond : second.tag = .closing first.tag.kind) :
    (Block.ofMarks? first second).isSome := by
  obtain ⟨tag, span⟩ := first
  obtain ⟨tag', span'⟩ := second
  cases tag with
  | opening kind argument =>
      obtain rfl : tag' = .closing kind := hsecond
      simp [Block.ofMarks?]
  | closing kind => cases hfirst

/-- If the stack gets through the tags to come, these and the tags on the stack are the tags of the
blocks. -/
theorem perm_marks_matchMarks {stack ms : List Mark}
    (hnests : Nests (stack.map fun mark => mark.tag.kind) (ms.map Mark.tag))
    (hstack : ∀ mark ∈ stack, mark.tag.isOpening = true) :
    ((matchMarks stack ms).flatMap fun found => found.2.marks).Perm (stack ++ ms) := by
  fun_induction matchMarks stack ms with
  | case1 stack =>
      obtain rfl : stack = [] := List.map_eq_nil_iff.mp hnests
      exact List.Perm.nil
  | case2 stack mark rest hopening ih =>
      obtain ⟨tag, span⟩ := mark
      cases tag with
      | closing kind => cases hopening
      | opening kind argument =>
          have hperm := ih hnests (List.forall_mem_cons.mpr ⟨rfl, hstack⟩)
          exact hperm.trans List.perm_middle.symm
  | case3 mark rest hclosing ih =>
      obtain ⟨tag, span⟩ := mark
      cases tag with
      | opening kind argument => exact absurd rfl hclosing
      | closing kind => exact hnests.elim
  | case4 mark rest hclosing top below block hblock ih =>
      obtain ⟨tag, span⟩ := mark
      cases tag with
      | opening kind argument => exact absurd rfl hclosing
      | closing kind =>
          obtain ⟨-, hbelow⟩ := hnests
          have hperm := ih hbelow fun mark hmark => hstack mark (List.mem_cons_of_mem top hmark)
          rw [List.flatMap_cons, Block.marks_of_ofMarks? hblock]
          exact ((hperm.cons _).cons top).trans (List.perm_middle.symm.cons top)
  | case5 mark rest hclosing top below hblock ih =>
      obtain ⟨tag, span⟩ := mark
      cases tag with
      | opening kind argument => exact absurd rfl hclosing
      | closing kind =>
          obtain ⟨rfl, -⟩ := hnests
          have hsome : (Block.ofMarks? top ⟨.closing top.tag.kind, span⟩).isSome :=
            Block.isSome_ofMarks? (hstack top List.mem_cons_self) rfl
          rw [hblock] at hsome
          cases hsome

/-- The tags of the blocks are, up to their order, those of a balanced list. -/
theorem perm_marks_matchedBlocks {ms : List Mark} (h : Balanced (ms.map Mark.tag)) :
    ((matchedBlocks ms).flatMap fun found => found.2.marks).Perm ms := by
  have hnests : Nests (([] : List Mark).map fun mark => mark.tag.kind) (ms.map Mark.tag) :=
    nests_nil_iff_balanced.mpr h
  have hmatch := perm_marks_matchMarks hnests (by simp)
  exact ((List.mergeSort_perm _ _).flatMap_right _).trans hmatch

/-! ### Tags in one block -/

/-- No tag comes twice: each has a place of its own. -/
theorem nodup_marks (text : List Char) : (marks text).Nodup := by
  have hplaces : ((marks text).map fun mark => mark.span.start).Pairwise (· < ·) := by
    have h := (Text.pairwise_placed Tag.read? text 0).1
    rw [List.pairwise_map]
    simpa [marks, Text.placedTokens, List.pairwise_map] using h
  exact List.Nodup.of_map _ hplaces.nodup

/-- In a list without repetitions that is put together from parts, every element is in one part. -/
theorem countP_mem_of_nodup_flatMap {α β : Type} [DecidableEq α] {f : β → List α} {l : List β}
    (hnodup : (l.flatMap f).Nodup) {a : α} (ha : a ∈ l.flatMap f) :
    l.countP (fun b => decide (a ∈ f b)) = 1 := by
  induction l with
  | nil => cases ha
  | cons b rest ih =>
      rw [List.flatMap_cons, List.nodup_append] at hnodup
      obtain ⟨-, hrest, hapart⟩ := hnodup
      rw [List.flatMap_cons, List.mem_append] at ha
      by_cases hb : a ∈ f b
      · have hnone : rest.countP (fun b => decide (a ∈ f b)) = 0 := by
          refine List.countP_eq_zero.mpr fun other hother hmem => ?_
          exact hapart a hb a (List.mem_flatMap.mpr ⟨other, hother, of_decide_eq_true hmem⟩) rfl
        rw [List.countP_cons_of_pos (by simpa using hb), hnone]
      · rw [List.countP_cons_of_neg (by simpa using hb)]
        exact ih hrest (ha.resolve_left hb)

/-- **Every tag of a template with balanced tags is in exactly one block.** -/
theorem countP_matchedBlocks {text : List Char} (h : Balanced ((marks text).map Mark.tag))
    {mark : Mark} (hmark : mark ∈ marks text) :
    (matchedBlocks (marks text)).countP (fun found => decide (mark ∈ found.2.marks)) = 1 := by
  have hperm := perm_marks_matchedBlocks h
  exact countP_mem_of_nodup_flatMap (hperm.nodup_iff.mpr (nodup_marks text))
    (hperm.mem_iff.mpr hmark)

end Rulebook.Template
