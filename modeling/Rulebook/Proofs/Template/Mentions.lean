/-
**What a template mentions outside of its loops.**

The names that a template needs are collected from the text: the spans of the loops are found, the
tags and the variables that lie within one are left out, and the paths of the others are sorted by
their places.  For the text of a passage all this comes to a walk along the passage that does not
enter the bodies of loops.  The walk meets every tag and variable outside of loops once and in
order, which is what the sorting makes of them again: they come at different places, and those of
one tag stay as they are.

Main definitions:

* `Rulebook.Template.Mention` — a path or a condition that a template mentions;
* `Rulebook.Template.Mention.paths` — the paths that are collected from it;
* `Rulebook.Template.Passage.mentions` — what a passage mentions outside of the bodies of loops.

Main results:

* `Rulebook.Template.mem_loopSpans_source` — the loops of the text of a passage;
* `Rulebook.Template.mergeSort_flatMap_of_perm` — sorting by places undoes a change of the order;
* `Rulebook.Template.neededPaths_source` — **the paths that are collected from the text of a passage
  are those of what it mentions**.
-/

import Rulebook.Proofs.Template.Splicing
import Rulebook.Template.Needs

set_option autoImplicit false

namespace Rulebook.Template

/-! ### Mentions -/

/-- A path or a condition that a template mentions. -/
inductive Mention where
  /-- The path of a variable. -/
  | value (path : List Char)
  /-- The path of a loop. -/
  | items (path : List Char)
  /-- A condition. -/
  | condition (text : List Char)
  deriving DecidableEq, Repr

/-- The paths that are collected from a mention. -/
def Mention.paths : Mention → List (List Char)
  | value path => [path]
  | items path => [path]
  | condition text => conditionPaths text

/-- Whether it is a variable that mentions something. -/
def Mention.isValue : Mention → Bool
  | value _ => true
  | items _ => false
  | condition _ => false

/-- What an opening tag mentions. -/
def Mention.ofOpening (argument : List Char) : BlockKind → Mention
  | .conditional => condition argument
  | .loop => items argument

/-- What a token mentions. -/
def Token.mention? : Token → Option Mention
  | opening kind content => some (.ofOpening (Text.trim content) kind)
  | closing _ => none
  | value path => some (.value path)

namespace Passage

/-- What a passage mentions outside of the bodies of loops, in order. -/
def mentions : Passage → List Mention
  | nil => []
  | plain _ rest => rest.mentions
  | value path rest => .value path :: rest.mentions
  | block .conditional content body rest =>
    .condition (Text.trim content) :: (body.mentions ++ rest.mentions)
  | block .loop content _ rest => .items (Text.trim content) :: rest.mentions

/-- The same with the places, for a passage that begins at a place. -/
def mentionsFrom : Nat → Passage → List (Nat × Mention)
  | _, nil => []
  | start, plain _ rest => mentionsFrom (start + 1) rest
  | start, value path rest =>
    (start, .value path) :: mentionsFrom (start + (variableSource path).length) rest
  | start, block .conditional content body rest =>
    (start, .condition (Text.trim content)) ::
      (mentionsFrom (blockAt start .conditional content body).opening.stop body ++
        mentionsFrom (blockAt start .conditional content body).closing.stop rest)
  | start, block .loop content body rest =>
    (start, .items (Text.trim content)) ::
      mentionsFrom (blockAt start .loop content body).closing.stop rest

theorem map_snd_mentionsFrom (start : Nat) (p : Passage) :
    (mentionsFrom start p).map Prod.snd = p.mentions := by
  induction p generalizing start with
  | nil => rfl
  | plain c rest ih => exact ih (start + 1)
  | value path rest ih => rw [mentionsFrom, mentions, List.map_cons, ih]
  | block kind content body rest ihbody ihrest =>
      cases kind with
      | conditional => rw [mentionsFrom, mentions, List.map_cons, List.map_append, ihbody, ihrest]
      | loop => rw [mentionsFrom, mentions, List.map_cons, ihrest]

/-- The spans of the loops of a passage that begins at a place. -/
def loopsFrom : Nat → Passage → List Span
  | _, nil => []
  | start, plain _ rest => loopsFrom (start + 1) rest
  | start, value path rest => loopsFrom (start + (variableSource path).length) rest
  | start, block kind content body rest =>
    (if kind = .loop then [(blockAt start kind content body).outer] else []) ++
      (loopsFrom (blockAt start kind content body).opening.stop body ++
        loopsFrom (blockAt start kind content body).closing.stop rest)

end Passage

open Passage

/-! ### Places -/

theorem length_openingSource_pos (kind : BlockKind) (content : List Char) :
    0 < (openingSource kind content).length :=
  List.length_pos_iff.mpr (openingSource_ne_nil kind content)

theorem length_variableSource_pos (path : List Char) : 0 < (variableSource path).length :=
  List.length_pos_iff.mpr (variableSource_ne_nil path)

theorem length_block_source (kind : BlockKind) (content : List Char) (body rest : Passage) :
    (block kind content body rest).source.length =
      (openingSource kind content).length + body.source.length + (closingSource kind).length +
        rest.source.length := by
  simp only [source, List.length_append]
  omega

/-- The loops of a passage lie within it. -/
theorem within_of_mem_loopsFrom {p : Passage} {start : Nat} {s : Span}
    (h : s ∈ loopsFrom start p) : start ≤ s.start ∧ s.stop ≤ start + p.source.length := by
  induction p generalizing start with
  | nil => cases h
  | plain c rest ih =>
      have hrest := ih h
      simp only [source, List.length_cons]
      omega
  | value path rest ih =>
      have hrest := ih h
      simp only [source, List.length_append]
      omega
  | block kind content body rest ihbody ihrest =>
      rw [length_block_source]
      rw [loopsFrom, List.mem_append, List.mem_append] at h
      rcases h with hself | hbody | hrest
      · split at hself
        · rw [List.mem_singleton.mp hself]
          simp only [Block.outer, blockAt]
          omega
        · cases hself
      · have hwithin := ihbody hbody
        simp only [blockAt] at hwithin
        omega
      · have hwithin := ihrest hrest
        simp only [blockAt] at hwithin
        omega

/-- The tags and variables of a passage lie within it. -/
theorem within_of_mem_tokensFrom {p : Passage} {start : Nat} {found : Token × Span}
    (h : found ∈ tokensFrom start p) :
    start ≤ found.2.start ∧ found.2.stop ≤ start + p.source.length := by
  induction p generalizing start with
  | nil => cases h
  | plain c rest ih =>
      have hrest := ih h
      simp only [source, List.length_cons]
      omega
  | value path rest ih =>
      simp only [source, List.length_append]
      rcases List.mem_cons.mp h with rfl | hrest
      · simp only
        omega
      · have hwithin := ih hrest
        omega
  | block kind content body rest ihbody ihrest =>
      rw [length_block_source]
      rw [tokensFrom, List.mem_cons, List.mem_append, List.mem_cons] at h
      rcases h with rfl | hbody | rfl | hrest
      · simp only [blockAt]
        omega
      · have hwithin := ihbody hbody
        simp only [blockAt] at hwithin
        omega
      · simp only [blockAt]
        omega
      · have hwithin := ihrest hrest
        simp only [blockAt] at hwithin
        omega

/-- What a passage mentions has its place in the passage. -/
theorem le_of_mem_mentionsFrom {p : Passage} {start : Nat} {found : Nat × Mention}
    (h : found ∈ mentionsFrom start p) :
    start ≤ found.1 ∧ found.1 < start + p.source.length := by
  induction p generalizing start with
  | nil => cases h
  | plain c rest ih =>
      have hrest := ih h
      simp only [source, List.length_cons]
      omega
  | value path rest ih =>
      have hpos := length_variableSource_pos path
      simp only [source, List.length_append]
      rcases List.mem_cons.mp h with rfl | hrest
      · simp only
        omega
      · have hwithin := ih hrest
        omega
  | block kind content body rest ihbody ihrest =>
      have hpos := length_openingSource_pos kind content
      rw [length_block_source]
      cases kind with
      | conditional =>
          rw [mentionsFrom, List.mem_cons, List.mem_append] at h
          rcases h with rfl | hbody | hrest
          · simp only
            omega
          · have hwithin := ihbody hbody
            simp only [blockAt] at hwithin
            omega
          · have hwithin := ihrest hrest
            simp only [blockAt] at hwithin
            omega
      | loop =>
          rw [mentionsFrom, List.mem_cons] at h
          rcases h with rfl | hrest
          · simp only
            omega
          · have hwithin := ihrest hrest
            simp only [blockAt] at hwithin
            omega

/-- What a passage mentions comes at different places, in order. -/
theorem pairwise_mentionsFrom (start : Nat) (p : Passage) :
    (mentionsFrom start p).Pairwise fun a b => a.1 < b.1 := by
  induction p generalizing start with
  | nil => exact List.Pairwise.nil
  | plain c rest ih => exact ih (start + 1)
  | value path rest ih =>
      have hpos := length_variableSource_pos path
      refine List.Pairwise.cons (fun found hfound => ?_) (ih _)
      have hwithin := le_of_mem_mentionsFrom hfound
      simp only
      omega
  | block kind content body rest ihbody ihrest =>
      have hpos := length_openingSource_pos kind content
      cases kind with
      | conditional =>
          refine List.Pairwise.cons (fun found hfound => ?_)
            (List.pairwise_append.mpr ⟨ihbody _, ihrest _, fun a ha b hb => ?_⟩)
          · rcases List.mem_append.mp hfound with hbody | hrest
            · have hwithin := le_of_mem_mentionsFrom hbody
              simp only [blockAt] at hwithin ⊢
              omega
            · have hwithin := le_of_mem_mentionsFrom hrest
              simp only [blockAt] at hwithin ⊢
              omega
          · have hfirst := le_of_mem_mentionsFrom ha
            have hsecond := le_of_mem_mentionsFrom hb
            simp only [blockAt] at hfirst hsecond
            omega
      | loop =>
          refine List.Pairwise.cons (fun found hfound => ?_) (ihrest _)
          have hwithin := le_of_mem_mentionsFrom hfound
          simp only [blockAt] at hwithin ⊢
          omega

/-! ### Loops -/

theorem mem_loopsFrom_iff {p : Passage} {start : Nat} {s : Span} (depth : Nat) :
    s ∈ loopsFrom start p ↔
      ∃ found ∈ blocksFrom depth start p, found.2.kind = .loop ∧ found.2.outer = s := by
  induction p generalizing depth start with
  | nil => simp [loopsFrom, blocksFrom]
  | plain c rest ih => exact ih depth
  | value path rest ih => exact ih depth
  | block kind content body rest ihbody ihrest =>
      simp only [loopsFrom, blocksFrom, List.mem_append, List.mem_cons, or_and_right, exists_or,
        exists_eq_left]
      rw [ihbody (depth + 1), ihrest depth]
      have hself : s ∈ (if kind = .loop then [(blockAt start kind content body).outer] else []) ↔
          (blockAt start kind content body).kind = .loop ∧
            (blockAt start kind content body).outer = s := by
        show _ ↔ kind = .loop ∧ _
        split
        · rename_i hkind
          simp [hkind, eq_comm]
        · rename_i hkind
          simp [hkind]
      rw [hself]
      exact or_left_comm

/-- **The loops of the text of a passage** are those of the passage. -/
theorem mem_loopSpans_source {p : Passage} (hp : p.Legible) {s : Span} :
    s ∈ loopSpans p.source ↔ s ∈ loopsFrom 0 p := by
  have hperm : (matchedBlocks (marks p.source)).Perm (blocksFrom 0 0 p) := by
    rw [matchedBlocks, matchMarks_marks_source hp]
    exact List.mergeSort_perm _ _
  rw [mem_loopsFrom_iff 0, loopSpans, List.mem_map]
  constructor
  · rintro ⟨found, hfound, rfl⟩
    obtain ⟨hmem, hkind⟩ := List.mem_filter.mp hfound
    exact ⟨found, hperm.mem_iff.mp hmem, by simpa using hkind, rfl⟩
  · rintro ⟨found, hmem, hkind, rfl⟩
    exact ⟨found, List.mem_filter.mpr ⟨hperm.mem_iff.mpr hmem, by simpa using hkind⟩, rfl⟩

theorem isInLoop_iff {loops : List Span} {span : Span} :
    isInLoop loops span = true ↔
      ∃ outer ∈ loops, (outer.start ≤ span.start ∧ span.stop ≤ outer.stop) ∧
        outer.start ≠ span.start := by
  simp [isInLoop, Span.contains_iff]

/-- Only the loops of the passage matter for what is in a loop of its text. -/
theorem isInLoop_source {p : Passage} (hp : p.Legible) (span : Span) :
    isInLoop (loopSpans p.source) span = isInLoop (loopsFrom 0 p) span := by
  rw [Bool.eq_iff_iff, isInLoop_iff, isInLoop_iff]
  simp only [mem_loopSpans_source hp]

/-- A span that begins before or with every loop that is not over yet is in none. -/
theorem isInLoop_eq_false {loops : List Span} {span : Span} (hspan : span.start < span.stop)
    (h : ∀ s ∈ loops, span.start ≤ s.start ∨ s.stop ≤ span.start) :
    isInLoop loops span = false := by
  rw [Bool.eq_false_iff]
  intro hin
  obtain ⟨s, hs, hcontains, hne⟩ := isInLoop_iff.mp hin
  have hplace := h s hs
  omega

/-- **The tags and variables outside of loops** mention what the passage mentions.  The loops may
be those of a larger text, if all others than those of the passage are over before it or begin after
it. -/
theorem filterMap_outside {p : Passage} {start : Nat} {loops : List Span}
    (hown : ∀ s ∈ loopsFrom start p, s ∈ loops)
    (hothers : ∀ s ∈ loops, s ∈ loopsFrom start p ∨ s.stop ≤ start ∨
      start + p.source.length ≤ s.start) :
    ((tokensFrom start p).filter fun found => !isInLoop loops found.2).filterMap
        (fun found => found.1.mention?.map fun mention => (found.2.start, mention)) =
      mentionsFrom start p := by
  induction p generalizing start with
  | nil => rfl
  | plain c rest ih =>
      refine ih hown fun s hs => ?_
      have hplace := hothers s hs
      simp only [source, List.length_cons] at hplace
      rcases hplace with hmem | hplace
      · exact .inl hmem
      · right
        omega
  | value path rest ih =>
      have hpos := length_variableSource_pos path
      have hplaces : ∀ s ∈ loops, s ∈ loopsFrom (start + (variableSource path).length) rest ∨
          s.stop ≤ start ∨ start + (variableSource path).length + rest.source.length ≤ s.start := by
        intro s hs
        have hplace := hothers s hs
        simp only [source, List.length_append, ← Nat.add_assoc] at hplace
        exact hplace
      have hout : isInLoop loops ⟨start, start + (variableSource path).length⟩ = false := by
        refine isInLoop_eq_false (by simpa using hpos) fun s hs => ?_
        simp only
        rcases hplaces s hs with hmem | hplace
        · have hwithin := within_of_mem_loopsFrom hmem
          omega
        · omega
      have hrest := ih hown fun s hs => by
        rcases hplaces s hs with hmem | hplace
        · exact .inl hmem
        · right
          omega
      rw [tokensFrom, List.filter_cons_of_pos (by simp [hout]), List.filterMap_cons, hrest]
      rfl
  | block kind content body rest ihbody ihrest =>
      have hpos := length_openingSource_pos kind content
      simp only [length_block_source] at hothers
      simp only [loopsFrom, List.mem_append] at hown hothers
      have hopening : isInLoop loops (blockAt start kind content body).opening = false := by
        refine isInLoop_eq_false (by simpa [blockAt] using hpos) fun s hs => ?_
        simp only [blockAt]
        rcases hothers s hs with (hself | hbody | hrest) | hplace
        · split at hself
          · rw [List.mem_singleton.mp hself]
            exact .inl (Nat.le_refl start)
          · cases hself
        · have hwithin := within_of_mem_loopsFrom hbody
          simp only [blockAt] at hwithin
          omega
        · have hwithin := within_of_mem_loopsFrom hrest
          simp only [blockAt] at hwithin
          omega
        · omega
      have hrest := ihrest (fun s hs => hown s (.inr (.inr hs))) fun s hs => by
        simp only [blockAt]
        rcases hothers s hs with (hself | hbody | hrest) | hplace
        · split at hself
          · rw [List.mem_singleton.mp hself]
            simp only [Block.outer, blockAt]
            omega
          · cases hself
        · have hwithin := within_of_mem_loopsFrom hbody
          simp only [blockAt] at hwithin
          omega
        · exact .inl hrest
        · omega
      rw [tokensFrom, List.filter_cons_of_pos (by simp [hopening]), List.filterMap_cons,
        List.filter_append, List.filterMap_append]
      -- The closing tag mentions nothing, in a loop or not.
      have hclosing : (((Token.closing kind, (blockAt start kind content body).closing) ::
          tokensFrom (blockAt start kind content body).closing.stop rest).filter fun found =>
            !isInLoop loops found.2).filterMap
          (fun found => found.1.mention?.map fun mention => (found.2.start, mention)) =
          mentionsFrom (blockAt start kind content body).closing.stop rest := by
        rw [List.filter_cons]
        split
        · rw [List.filterMap_cons, hrest]
          rfl
        · exact hrest
      rw [hclosing]
      cases kind with
      | conditional =>
          have hbody := ihbody (fun s hs => hown s (.inr (.inl hs))) fun s hs => by
            simp only [blockAt]
            rcases hothers s hs with (hself | hbody | hrest) | hplace
            · cases hself
            · exact .inl hbody
            · have hwithin := within_of_mem_loopsFrom hrest
              simp only [blockAt] at hwithin
              omega
            · omega
          rw [hbody]
          rfl
      | loop =>
          -- All of the body is within the loop itself.
          have hself : (blockAt start .loop content body).outer ∈ loops := by
            refine hown _ (.inl ?_)
            rw [if_pos rfl]
            exact List.mem_singleton_self _
          have hbody : (tokensFrom (blockAt start .loop content body).opening.stop body).filter
              (fun found => !isInLoop loops found.2) = [] := by
            refine List.filter_eq_nil_iff.mpr fun found hfound => ?_
            have hwithin := within_of_mem_tokensFrom hfound
            have hin : isInLoop loops found.2 = true := by
              refine isInLoop_iff.mpr ⟨_, hself, ?_⟩
              simp only [Block.outer, blockAt] at hwithin ⊢
              omega
            simp [hin]
          rw [hbody]
          rfl

/-! ### Sorting -/

/-- **Sorting by places undoes a change of the order.**  Several items may come from one place; they
stay in their order. -/
theorem mergeSort_flatMap_of_perm {α β : Type} {f : Nat × α → List (Nat × β)}
    (hf : ∀ a, ∀ b ∈ f a, b.1 = a.1) {l m : List (Nat × α)} (hm : m.Pairwise fun a b => a.1 < b.1)
    (hperm : l.Perm m) :
    ((l.flatMap f).mergeSort fun a b => decide (a.1 ≤ b.1)) = m.flatMap f := by
  have htrans : ∀ a b c : Nat × β, decide (a.1 ≤ b.1) = true → decide (b.1 ≤ c.1) = true →
      decide (a.1 ≤ c.1) = true := by
    intro a b c hab hbc
    simp only [decide_eq_true_eq] at hab hbc ⊢
    omega
  have htotal : ∀ a b : Nat × β, (decide (a.1 ≤ b.1) || decide (b.1 ≤ a.1)) = true := by
    intro a b
    simp only [Bool.or_eq_true, decide_eq_true_eq]
    omega
  have hfilter (key : Nat) (n : List (Nat × α)) :
      (n.flatMap f).filter (fun b => b.1 == key) =
        (n.filter fun a => a.1 == key).flatMap f := by
    induction n with
    | nil => rfl
    | cons a n ih =>
        rw [List.flatMap_cons, List.filter_append, ih]
        by_cases hkey : a.1 = key
        · have hall : (f a).filter (fun b => b.1 == key) = f a :=
            List.filter_eq_self.mpr fun b hb => by simpa using (hf a b hb).trans hkey
          rw [hall, List.filter_cons_of_pos (by simpa using hkey), List.flatMap_cons]
        · have hnone : (f a).filter (fun b => b.1 == key) = [] :=
            List.filter_eq_nil_iff.mpr fun b hb => by
              rw [hf a b hb]
              simpa using hkey
          rw [hnone, List.filter_cons_of_neg (by simpa using hkey), List.nil_append]
  -- There is at most one item of `m` at each place, so that the order there is no matter.
  have hone (key : Nat) : (l.filter fun a => a.1 == key) = m.filter fun a => a.1 == key := by
    have hkeys := hperm.filter fun a => a.1 == key
    cases hfound : m.filter fun a => a.1 == key with
    | nil =>
        rw [hfound] at hkeys
        exact hkeys.eq_nil
    | cons a more =>
        cases more with
        | nil =>
            rw [hfound] at hkeys
            exact hkeys.eq_singleton
        | cons b more =>
            exfalso
            have hpair := hm.filter fun a => a.1 == key
            rw [hfound, List.pairwise_cons] at hpair
            have hlt := hpair.1 b List.mem_cons_self
            have hmem (c : Nat × α) (hc : c ∈ a :: b :: more) : c.1 = key := by
              rw [← hfound] at hc
              simpa using (List.mem_filter.mp hc).2
            have ha := hmem a (by simp)
            have hb := hmem b (by simp)
            omega
  have hantisymm : ∀ a b : Nat × β, decide (a.1 ≤ b.1) = true → decide (b.1 ≤ a.1) = true →
      a.1 = b.1 := by
    intro a b hab hba
    simp only [decide_eq_true_eq] at hab hba
    omega
  have hequal : ∀ a b : Nat × β, a.1 = b.1 → decide (a.1 ≤ b.1) = true := by
    intro a b hab
    simp [hab]
  refine (eq_mergeSort_of_filter_key_eq htrans htotal hantisymm hequal ?_ fun key => ?_).symm
  · rw [List.pairwise_flatMap]
    refine ⟨fun a _ => List.pairwise_of_forall_mem_list fun b hb c hc => ?_, ?_⟩
    · simp [hf a b hb, hf a c hc]
    · refine hm.imp fun {a b} hab c hc d hd => ?_
      rw [hf a c hc, hf b d hd]
      simpa using hab.le
  · rw [hfilter, hfilter, hone]

/-! ### The paths of a passage -/

/-- The paths of a mention with their place. -/
def placedPaths (found : Nat × Mention) : List (Nat × List Char) :=
  found.2.paths.map fun path => (found.1, path)

theorem directivePaths_source {p : Passage} (hp : p.Legible) :
    directivePaths p.source =
      ((mentionsFrom 0 p).filter fun found => !found.2.isValue).flatMap placedPaths := by
  rw [← filterMap_outside (fun _ h => h) fun s hs => .inl hs, directivePaths, marks_source hp,
    marksFrom_eq]
  simp only [isInLoop_source hp]
  induction tokensFrom 0 p with
  | nil => rfl
  | cons found rest ih =>
      obtain ⟨token, span⟩ := found
      cases hin : isInLoop (loopsFrom 0 p) span with
      | true => cases token <;> simpa [hin, Token.tag?] using ih
      | false =>
          cases token with
          | opening kind content =>
              cases kind <;>
                simpa [hin, Token.tag?, Token.mention?, Mention.ofOpening, Mention.isValue,
                  placedPaths, Mention.paths, tagPaths] using ih
          | closing kind => simpa [hin, Token.tag?, Token.mention?, tagPaths] using ih
          | value path => simpa [hin, Token.tag?, Token.mention?, Mention.isValue] using ih

theorem variablePaths_source {p : Passage} (hp : p.Legible) :
    variablePaths p.source =
      ((mentionsFrom 0 p).filter fun found => found.2.isValue).flatMap placedPaths := by
  rw [← filterMap_outside (fun _ h => h) fun s hs => .inl hs, variablePaths,
    placedTokens_source Token.taken_variables hp]
  simp only [isInLoop_source hp]
  induction tokensFrom 0 p with
  | nil => rfl
  | cons found rest ih =>
      obtain ⟨token, span⟩ := found
      cases hin : isInLoop (loopsFrom 0 p) span with
      | true => cases token <;> simpa [hin, Token.path?] using ih
      | false =>
          cases token with
          | opening kind content =>
              cases kind <;>
                simpa [hin, Token.path?, Token.mention?, Mention.ofOpening, Mention.isValue] using ih
          | closing kind => simpa [hin, Token.path?, Token.mention?] using ih
          | value path =>
              simpa [hin, Token.path?, Token.mention?, Mention.isValue, placedPaths,
                Mention.paths] using ih

/-- **The paths that are collected from the text of a passage** are those of what the passage
mentions outside of the bodies of loops, in order. -/
theorem neededPaths_source {p : Passage} (hp : p.Legible) :
    neededPaths p.source = p.mentions.flatMap Mention.paths := by
  have hperm : ((mentionsFrom 0 p).filter (fun found => !found.2.isValue) ++
      (mentionsFrom 0 p).filter fun found => found.2.isValue).Perm (mentionsFrom 0 p) :=
    List.perm_append_comm.trans (List.filter_append_perm _ _)
  have hplaces : ∀ found, ∀ path ∈ placedPaths found, path.1 = found.1 := by
    intro found path hpath
    obtain ⟨_, -, rfl⟩ := List.mem_map.mp hpath
    rfl
  rw [neededPaths, directivePaths_source hp, variablePaths_source hp, ← List.flatMap_append,
    mergeSort_flatMap_of_perm hplaces (pairwise_mentionsFrom 0 p) hperm, ← map_snd_mentionsFrom 0,
    List.map_flatMap, List.flatMap_map]
  simp [placedPaths, Function.comp_def]

end Rulebook.Template
