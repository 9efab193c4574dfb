/-
**Replacing the blocks of a passage.**

The passes of the renderer find the outer blocks of a text by their tags: the tags are placed,
matched with a stack, sorted, and those of depth zero are cut out of the text by their spans.  For
the text of a passage all this comes to a walk along the passage: its outer blocks are the blocks
it is made of, in their order, and splicing replaces each of them where it stands.

Main definitions:

* `Rulebook.Template.Passage.Legible` — the tags and variables in the text of the passage are those
  that it is made of, whatever follows it;
* `Rulebook.Template.Passage.tokensFrom` — the tags and variables of a passage with their spans;
* `Rulebook.Template.Passage.outer` — the blocks of a passage with the spans of their tags;
* `Rulebook.Template.Passage.spliced` — the text of a passage with blocks replaced.

Main results:

* `Rulebook.Template.placed_source` — what a reader of tags or variables finds in the text of a
  passage;
* `Rulebook.Template.outerBlocks_source` — the outer blocks of the text of a passage;
* `Rulebook.Template.splice_source` — splicing the text of a passage.
-/

import Rulebook.Proofs.Sorting
import Rulebook.Proofs.Template.Counting
import Rulebook.Template.Block

set_option autoImplicit false

namespace Rulebook.Template

/-! ### Readers of tags and variables -/

theorem Token.read?_eq_none_iff {s : List Char} :
    Token.read? s = none ↔ Tag.read? s = none ∧ Variable.read? s = none := by
  rw [Token.read?]
  split
  · rename_i htag
    simp [htag]
  · rename_i htag
    simp [htag]
  · rename_i htag
    simp [htag]

theorem Token.read?_cons_of_ne {c : Char} (hc : c ≠ '{') (s : List Char) :
    Token.read? (c :: s) = none :=
  Token.read?_eq_none_iff.mpr ⟨beginsAtBrace_tag c s hc, beginsAtBrace_variable c s hc⟩

/-- The path of a token that is a variable. -/
def Token.path? : Token → Option (List Char)
  | value path => some path
  | opening _ _ => none
  | closing _ => none

/-- A reader that takes something of the tags and variables and passes over everything else. -/
structure Token.Taken {α : Type} (read : List Char → Option (α × Nat)) (take? : Token → Option α) :
    Prop where
  /-- At a tag or a variable, what is taken of it is read. -/
  source : ∀ (token : Token) (rest : List Char), token.Proper →
    read (token.source ++ rest) = (take? token).map fun value => (value, token.source.length)
  /-- Elsewhere nothing is. -/
  none_elsewhere : ∀ s : List Char, Token.read? s = none → read s = none

theorem Token.taken_tags : Token.Taken Tag.read? Token.tag? where
  source token rest hproper := by
    cases token with
    | opening kind content => exact Tag.read?_openingSource kind rest hproper
    | closing kind => exact Tag.read?_closingSource kind rest
    | value path => exact Tag.read?_variableSource rest hproper
  none_elsewhere _ h := (Token.read?_eq_none_iff.mp h).1

theorem Token.taken_variables : Token.Taken Variable.read? Token.path? where
  source token rest hproper := by
    cases token with
    | opening kind content =>
        exact Variable.read?_eq_none_of_tag (Tag.read?_openingSource kind rest hproper)
    | closing kind => exact Variable.read?_eq_none_of_tag (Tag.read?_closingSource kind rest)
    | value path => exact Variable.read?_variableSource rest hproper
  none_elsewhere _ h := (Token.read?_eq_none_iff.mp h).2

namespace Passage

/-! ### Tags and blocks by their places -/

/-- The tags and variables in the text of the passage are those that it is made of, whatever text
follows it. -/
def Legible : Passage → Prop
  | nil => True
  | plain c rest => (∀ t, Token.read? (c :: (rest.source ++ t)) = none) ∧ rest.Legible
  | value path rest => IsPath path ∧ rest.Legible
  | block _ content body rest => IsContent content ∧ body.Legible ∧ rest.Legible

/-- The block that a passage of this form begins with, if the passage begins at a place. -/
def blockAt (start : Nat) (kind : BlockKind) (content : List Char) (body : Passage) : Block where
  kind := kind
  argument := Text.trim content
  opening := ⟨start, start + (openingSource kind content).length⟩
  closing :=
    ⟨start + (openingSource kind content).length + body.source.length,
      start + (openingSource kind content).length + body.source.length +
        (closingSource kind).length⟩

/-- The tags and variables of a passage that begins at a place. -/
def tokensFrom : Nat → Passage → List (Token × Span)
  | _, nil => []
  | start, plain _ rest => tokensFrom (start + 1) rest
  | start, value path rest =>
    (.value path, ⟨start, start + (variableSource path).length⟩) ::
      tokensFrom (start + (variableSource path).length) rest
  | start, block kind content body rest =>
    (.opening kind content, (blockAt start kind content body).opening) ::
      (tokensFrom (blockAt start kind content body).opening.stop body ++
        (.closing kind, (blockAt start kind content body).closing) ::
          tokensFrom (blockAt start kind content body).closing.stop rest)

/-- The tags of a passage that begins at a place. -/
def marksFrom : Nat → Passage → List Mark
  | _, nil => []
  | start, plain _ rest => marksFrom (start + 1) rest
  | start, value path rest => marksFrom (start + (variableSource path).length) rest
  | start, block kind content body rest =>
    ⟨.opening kind (Text.trim content), (blockAt start kind content body).opening⟩ ::
      (marksFrom (blockAt start kind content body).opening.stop body ++
        ⟨.closing kind, (blockAt start kind content body).closing⟩ ::
          marksFrom (blockAt start kind content body).closing.stop rest)

/-- All blocks of a passage that begins at a place and at a depth, in the order of their closing
tags. -/
def blocksFrom : Nat → Nat → Passage → List (Nat × Block)
  | _, _, nil => []
  | depth, start, plain _ rest => blocksFrom depth (start + 1) rest
  | depth, start, value path rest => blocksFrom depth (start + (variableSource path).length) rest
  | depth, start, block kind content body rest =>
    blocksFrom (depth + 1) (blockAt start kind content body).opening.stop body ++
      (depth, blockAt start kind content body) ::
        blocksFrom depth (blockAt start kind content body).closing.stop rest

/-- The blocks that a passage which begins at a place is made of. -/
def outer : Nat → Passage → List Block
  | _, nil => []
  | start, plain _ rest => outer (start + 1) rest
  | start, value path rest => outer (start + (variableSource path).length) rest
  | start, block kind content body rest =>
    blockAt start kind content body ::
      outer (blockAt start kind content body).closing.stop rest

end Passage

open Passage

/-- What a reader finds at one token. -/
theorem placed_token {α : Type} {read : List Char → Option (α × Nat)} {take? : Token → Option α}
    (hread : Token.Taken read take?) {token : Token} (hproper : token.Proper) (start : Nat)
    (rest : List Char) :
    Text.placed start (Text.pieces read (token.source ++ rest)) =
      (take? token).toList.map (fun value => (value, ⟨start, start + token.source.length⟩)) ++
        Text.placed (start + token.source.length) (Text.pieces read rest) := by
  have hsource := hread.source token rest hproper
  cases htake : take? token with
  | some value =>
      rw [htake] at hsource
      rw [Text.pieces_token token.source_ne_nil hsource, Text.placed]
      rfl
  | none =>
      -- Nothing is taken of the token: its brace is passed over, and there is no other in it.
      rw [htake] at hsource
      obtain ⟨tail, htail, hbrace⟩ := token.exists_tail hproper
      have hskip (s : List Char) (place : Nat) (ps : List (Text.Piece α)) :
          Text.placed place (s.map .plain ++ ps) = Text.placed (place + s.length) ps := by
        induction s generalizing place with
        | nil => rfl
        | cons c s ihs =>
            rw [List.map_cons, List.cons_append, Text.placed, ihs, List.length_cons,
              Nat.add_assoc, Nat.add_comm 1]
      have hbegins : Text.BeginsAtBrace read := fun c s hc =>
        hread.none_elsewhere _ (Token.read?_cons_of_ne hc s)
      rw [htail, List.cons_append] at hsource ⊢
      rw [Text.pieces_cons_of_none hsource, Text.pieces_append_of_not_mem hbegins rest hbrace,
        Text.placed, hskip, List.length_cons, Nat.add_assoc, Nat.add_comm 1]
      rfl

/-- **What a reader finds in the text of a passage** is what it takes of the tags and variables of
the passage, whatever follows. -/
theorem placed_source {α : Type} {read : List Char → Option (α × Nat)} {take? : Token → Option α}
    (hread : Token.Taken read take?) {p : Passage} (hp : p.Legible) (start : Nat)
    (rest : List Char) :
    Text.placed start (Text.pieces read (p.source ++ rest)) =
      (tokensFrom start p).filterMap
          (fun found => (take? found.1).map fun value => (value, found.2)) ++
        Text.placed (start + p.source.length) (Text.pieces read rest) := by
  induction p generalizing start rest with
  | nil => rfl
  | plain c more ih =>
      rw [source, List.cons_append, Text.pieces_cons_of_none (hread.none_elsewhere _ (hp.1 rest)),
        Text.placed, ih hp.2, tokensFrom, List.length_cons, Nat.add_assoc, Nat.add_comm 1]
  | value path more ih =>
      have htoken := placed_token hread (show (Token.value path).Proper from hp.1) start
        (more.source ++ rest)
      rw [Token.source] at htoken
      rw [source, List.append_assoc, htoken, ih hp.2, tokensFrom, List.filterMap_cons,
        List.length_append, Nat.add_assoc]
      cases take? (.value path) <;> rfl
  | block kind content body more ihbody ihmore =>
      obtain ⟨hcontent, hbody, hmore⟩ := hp
      have hopening := placed_token hread (show (Token.opening kind content).Proper from hcontent)
        start (body.source ++ (closingSource kind ++ (more.source ++ rest)))
      have hclosing := placed_token hread (show (Token.closing kind).Proper from trivial)
        (start + (openingSource kind content).length + body.source.length) (more.source ++ rest)
      simp only [Token.source] at hopening hclosing
      rw [source, List.append_assoc, List.append_assoc, List.append_assoc, hopening, ihbody hbody,
        hclosing, ihmore hmore, tokensFrom, List.filterMap_cons, List.filterMap_append,
        List.filterMap_cons]
      cases take? (.opening kind content) <;> cases take? (.closing kind) <;>
        simp [blockAt, Nat.add_assoc]

/-- A reader of whole texts finds what it takes of the tags and variables of a passage. -/
theorem placedTokens_source {α : Type} {read : List Char → Option (α × Nat)}
    {take? : Token → Option α} (hread : Token.Taken read take?) {p : Passage} (hp : p.Legible) :
    Text.placedTokens read p.source =
      (tokensFrom 0 p).filterMap fun found => (take? found.1).map fun value => (value, found.2) := by
  have h := placed_source hread hp 0 []
  rw [List.append_nil] at h
  rw [Text.placedTokens, h]
  simp [Text.pieces, Text.placed]

theorem marksFrom_eq (start : Nat) (p : Passage) :
    marksFrom start p =
      (tokensFrom start p).filterMap fun found => found.1.tag?.map fun tag => ⟨tag, found.2⟩ := by
  induction p generalizing start with
  | nil => rfl
  | plain c rest ih => exact ih (start + 1)
  | value path rest ih => exact ih _
  | block kind content body rest ihbody ihrest =>
      rw [marksFrom, tokensFrom, ihbody, ihrest]
      simp [Token.tag?]

theorem marks_source {p : Passage} (hp : p.Legible) : marks p.source = marksFrom 0 p := by
  rw [marks, placedTokens_source Token.taken_tags hp, marksFrom_eq, List.map_filterMap]
  simp only [Option.map_map]
  rfl

theorem matchMarks_opening (stack rest : List Mark) (kind : BlockKind) (argument : List Char)
    (span : Span) :
    matchMarks stack (⟨.opening kind argument, span⟩ :: rest) =
      matchMarks (⟨.opening kind argument, span⟩ :: stack) rest := by
  rw [matchMarks.eq_def]
  rfl

theorem matchMarks_closing (below rest : List Mark) (kind : BlockKind) (argument : List Char)
    (opening closing : Span) :
    matchMarks (⟨.opening kind argument, opening⟩ :: below) (⟨.closing kind, closing⟩ :: rest) =
      (below.length, ⟨kind, argument, opening, closing⟩) :: matchMarks below rest := by
  rw [matchMarks.eq_def]
  simp [Tag.isOpening, Block.ofMarks?]

/-- The tags of a passage are matched with each other, and the open blocks stay as they are. -/
theorem matchMarks_marksFrom (p : Passage) (stack : List Mark) (start : Nat) (more : List Mark) :
    matchMarks stack (marksFrom start p ++ more) =
      blocksFrom stack.length start p ++ matchMarks stack more := by
  induction p generalizing stack start more with
  | nil => rfl
  | plain c rest ih => exact ih stack (start + 1) more
  | value path rest ih => exact ih stack _ more
  | block kind content body rest ihbody ihrest =>
      -- The opening tag lies on top of the stack while the body is gone through.
      rw [marksFrom, List.cons_append, matchMarks_opening, List.append_assoc, ihbody,
        List.cons_append, matchMarks_closing, ihrest, blocksFrom, List.append_assoc]
      rfl

theorem matchMarks_marks_source {p : Passage} (hp : p.Legible) :
    matchMarks [] (marks p.source) = blocksFrom 0 0 p := by
  have h := matchMarks_marksFrom p [] 0 []
  rw [List.append_nil] at h
  rw [marks_source hp, h]
  simp [matchMarks]

/-! ### The outer blocks -/

/-- Among the blocks of a passage those of its own depth are the ones that it is made of. -/
theorem filter_blocksFrom (p : Passage) (start : Nat) {depth level : Nat} (h : level ≤ depth) :
    (blocksFrom depth start p).filter (fun found => found.1 == level) =
      if depth = level then (outer start p).map fun block => (level, block) else [] := by
  induction p generalizing depth start with
  | nil => simp [blocksFrom, outer]
  | plain c rest ih => exact ih _ h
  | value path rest ih => exact ih _ h
  | block kind content body rest ihbody ihrest =>
      rw [blocksFrom, List.filter_append, ihbody _ (Nat.le_succ_of_le h), if_neg (by omega),
        List.nil_append, List.filter_cons, ihrest _ h]
      by_cases hdepth : depth = level <;> simp [hdepth, outer]

/-- The blocks that a passage is made of stand one after the other. -/
theorem start_le_of_mem_outer (p : Passage) {start : Nat} {block : Block}
    (h : block ∈ outer start p) : start ≤ block.opening.start := by
  induction p generalizing start with
  | nil => cases h
  | plain c rest ih =>
      have hrest := ih h
      omega
  | value path rest ih =>
      have hrest := ih h
      omega
  | block kind content body rest _ ih =>
      obtain rfl | h := List.mem_cons.mp h
      · exact Nat.le_refl start
      · have hrest := ih h
        simp only [blockAt] at hrest
        omega

theorem pairwise_outer (p : Passage) (start : Nat) :
    (outer start p).Pairwise fun a b => a.opening.start ≤ b.opening.start := by
  induction p generalizing start with
  | nil => exact List.Pairwise.nil
  | plain c rest ih => exact ih (start + 1)
  | value path rest ih => exact ih _
  | block kind content body rest _ ih =>
      refine List.Pairwise.cons (fun block hblock => ?_) (ih _)
      have hstart := start_le_of_mem_outer rest hblock
      simp only [blockAt] at hstart ⊢
      omega

/-- **The outer blocks of the text of a passage are the blocks that the passage is made of.** -/
theorem outerBlocks_source {p : Passage} (hp : p.Legible) :
    outerBlocks (marks p.source) = outer 0 p := by
  have hfilter := filter_blocksFrom p 0 (Nat.le_refl 0)
  rw [if_pos rfl] at hfilter
  rw [outerBlocks, matchedBlocks, matchMarks_marks_source hp, filter_mergeSort, hfilter]
  · simp [Function.comp_def]
  · intro a b c hab hbc
    simp only [decide_eq_true_eq] at hab hbc ⊢
    omega
  · intro a b
    simp only [Bool.or_eq_true, decide_eq_true_eq]
    omega
  · rw [hfilter, List.pairwise_map]
    simpa using pairwise_outer p 0

/-! ### Splicing -/

/-- The text of a passage in which the blocks that it is made of are replaced.  A replacement may
depend on the kind of a block, its argument and the text of its body. -/
def Passage.spliced (replace : BlockKind → List Char → List Char → Option (List Char)) :
    Passage → List Char
  | nil => []
  | plain c rest => c :: rest.spliced replace
  | value path rest => variableSource path ++ rest.spliced replace
  | block kind content body rest =>
    (replace kind (Text.trim content) body.source).getD
        (openingSource kind content ++ (body.source ++ closingSource kind)) ++
      rest.spliced replace

theorem slice_append (a b c : List Char) :
    Text.slice (a ++ (b ++ c)) a.length (a.length + b.length) = b := by
  have htake : (a ++ (b ++ c)).take (a.length + b.length) = a ++ b := by
    rw [← List.append_assoc, ← List.length_append, List.take_left]
  rw [Text.slice, htake, List.drop_left]

theorem body_blockAt {text : List Char} (before after : List Char) (kind : BlockKind)
    (content : List Char) (body : Passage)
    (h : text = before ++ (openingSource kind content ++ (body.source ++ after))) :
    (blockAt before.length kind content body).body text = body.source := by
  have hslice := slice_append (before ++ openingSource kind content) body.source after
  rw [List.length_append] at hslice
  rw [Block.body, h, ← List.append_assoc]
  exact hslice

theorem stop_blockAt (start : Nat) (kind : BlockKind) (content : List Char) (body : Passage) :
    (blockAt start kind content body).closing.stop =
      start + (openingSource kind content ++ (body.source ++ closingSource kind)).length := by
  simp only [blockAt, List.length_append]
  omega

/-- Splicing from a place: up to the passage there is a gap, which is kept. -/
theorem spliceFrom_outer (replace : BlockKind → List Char → List Char → Option (List Char))
    (p : Passage) (before gap : List Char) {text : List Char}
    (h : text = before ++ (gap ++ p.source)) :
    spliceFrom text (fun block => replace block.kind block.argument (block.body text))
        before.length (outer (before.length + gap.length) p) =
      gap ++ p.spliced replace := by
  induction p generalizing before gap with
  | nil =>
      rw [outer, spliceFrom, h, List.drop_left]
      rfl
  | plain c rest ih =>
      have htext : text = before ++ ((gap ++ [c]) ++ rest.source) := by
        rw [h]
        simp [source]
      have hrest := ih before (gap ++ [c]) htext
      rw [List.length_append, ← Nat.add_assoc] at hrest
      rw [outer, spliced]
      exact hrest.trans (by simp)
  | value path rest ih =>
      have htext : text = before ++ ((gap ++ variableSource path) ++ rest.source) := by
        rw [h]
        simp [source]
      have hrest := ih before (gap ++ variableSource path) htext
      rw [List.length_append, ← Nat.add_assoc] at hrest
      rw [outer, spliced, hrest, List.append_assoc]
  | block kind content body rest _ ih =>
      have hbody := body_blockAt (before ++ gap) (closingSource kind ++ rest.source) kind content
        body (h.trans (by simp [source]))
      rw [List.length_append] at hbody
      have hreplace : replace (blockAt (before.length + gap.length) kind content body).kind
          (blockAt (before.length + gap.length) kind content body).argument
          ((blockAt (before.length + gap.length) kind content body).body text) =
            replace kind (Text.trim content) body.source := by
        rw [hbody]
        rfl
      rw [outer, spliceFrom, spliced]
      simp only [hreplace]
      cases replace kind (Text.trim content) body.source with
      | some replacement =>
          -- The walk goes on after the block, with no gap left.
          have hrest := ih (before ++ (gap ++ (openingSource kind content ++
            (body.source ++ closingSource kind)))) [] (h.trans (by simp [source]))
          rw [List.length_nil, Nat.add_zero, @List.length_append _ before,
            @List.length_append _ gap, ← Nat.add_assoc, ← stop_blockAt, List.nil_append] at hrest
          have hgap : Text.slice text before.length
              (blockAt (before.length + gap.length) kind content body).opening.start = gap := by
            rw [h]
            exact slice_append before gap _
          simp only [hrest, hgap]
          simp
      | none =>
          -- The block joins the gap.
          have hrest := ih before (gap ++ (openingSource kind content ++
            (body.source ++ closingSource kind))) (h.trans (by simp [source]))
          rw [@List.length_append _ gap, ← Nat.add_assoc, ← stop_blockAt] at hrest
          simp only [hrest]
          simp

/-- **Splicing the text of a passage replaces the blocks that the passage is made of.** -/
theorem splice_source (replace : BlockKind → List Char → List Char → Option (List Char))
    {p : Passage} (hp : p.Legible) :
    splice p.source (fun block => replace block.kind block.argument (block.body p.source)) =
      p.spliced replace := by
  rw [splice, outerBlocks_source hp]
  exact spliceFrom_outer replace p [] [] rfl

end Rulebook.Template
