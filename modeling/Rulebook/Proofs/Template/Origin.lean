/-
**Where the characters of a rendering come from.**

A rendering with opaque values is made of characters of the template and of values that were looked
up in the scopes of the template.  So if neither the template nor the context has the character that
stands for a brace, the rendering does not have it either, and unmasking the masked text gives the
text itself.

Main results:

* `Rulebook.Template.mem_of_mem_argument` — the arguments of blocks come from the text;
* `Rulebook.Template.standIn_not_mem_renderOpaque` — no stand-in comes into a rendering.
-/

import Rulebook.Proofs.Template.Nesting
import Rulebook.Proofs.Template.Opaque
import Rulebook.Proofs.Template.Scope

set_option autoImplicit false

namespace Rulebook.Template

/-! ### Blocks -/

/-- The argument of an opening tag comes from the text. -/
theorem mem_of_mem_openingArgument {text : List Char} {mark : Mark} (hmark : mark ∈ marks text)
    {kind : BlockKind} {argument : List Char} (htag : mark.tag = .opening kind argument)
    {c : Char} (hc : c ∈ argument) : c ∈ text := by
  obtain ⟨⟨tag, span⟩, hplaced, rfl⟩ := List.mem_map.mp hmark
  obtain ⟨s, length, hs, hread⟩ := Text.exists_read_of_mem_placed hplaced
  cases htag
  obtain ⟨kind', content, rest, -, rfl, hfound⟩ | ⟨kind', rest, -, hfound⟩ :=
    Tag.read?_eq_some_iff.mp hread
  · cases hfound
    have hcontent : c ∈ content := by
      by_contra hnot
      exact not_mem_trim hnot hc
    exact hs.subset (by simp [openingSource, hcontent])
  · cases hfound

/-- A block begins with one of the opening tags. -/
theorem exists_opening_of_mem_matchMarks {stack ms : List Mark} {found : Nat × Block}
    (h : found ∈ matchMarks stack ms) :
    ∃ mark ∈ stack ++ ms, mark.tag = .opening found.2.kind found.2.argument := by
  rw [matchMarks_eq] at h
  obtain ⟨opened, hopened, rfl⟩ := List.mem_map.mp h
  obtain ⟨first, second, hblock, -, hsub⟩ := sublist_of_mem_openMatches hopened
  have hmem : first ∈ stack.reverse ++ ms := hsub.subset (by simp)
  refine ⟨first, by simpa using hmem, ?_⟩
  have hmarks := Block.marks_of_ofMarks? hblock
  rw [Block.marks, List.cons.injEq] at hmarks
  rw [← hmarks.1]

/-- **The arguments of blocks come from the text.** -/
theorem mem_of_mem_argument {text : List Char} {block : Block}
    (h : block ∈ outerBlocks (marks text)) {c : Char} (hc : c ∈ block.argument) : c ∈ text := by
  obtain ⟨found, hfound, rfl⟩ := List.mem_map.mp h
  have hmatched := List.mem_mergeSort.mp (List.mem_filter.mp hfound).1
  obtain ⟨mark, hmark, htag⟩ := exists_opening_of_mem_matchMarks hmatched
  exact mem_of_mem_openingArgument hmark htag hc

theorem mem_of_mem_slice {text : List Char} {start stop : Nat} {c : Char}
    (h : c ∈ Text.slice text start stop) : c ∈ text :=
  List.mem_of_mem_take (List.mem_of_mem_drop h)

/-! ### The first pass -/

theorem mem_spliceFrom {text : List Char} {expand : Block → Option (List Char)} {place : Nat}
    {blocks : List Block} {c : Char} (h : c ∈ spliceFrom text expand place blocks) :
    c ∈ text ∨ ∃ block ∈ blocks, ∃ replacement, expand block = some replacement ∧
      c ∈ replacement := by
  induction blocks generalizing place with
  | nil => exact Or.inl (List.mem_of_mem_drop h)
  | cons block rest ih =>
      have hlater (hrest : c ∈ text ∨ ∃ block ∈ rest, ∃ replacement,
          expand block = some replacement ∧ c ∈ replacement) :
          c ∈ text ∨ ∃ other ∈ block :: rest, ∃ replacement,
            expand other = some replacement ∧ c ∈ replacement := by
        obtain htext | ⟨other, hother, hreplacement⟩ := hrest
        · exact Or.inl htext
        · exact Or.inr ⟨other, List.mem_cons_of_mem block hother, hreplacement⟩
      rw [spliceFrom] at h
      split at h
      · rename_i replacement hexpand
        rw [List.mem_append, List.mem_append] at h
        obtain (hslice | hmem) | hrest := h
        · exact Or.inl (mem_of_mem_slice hslice)
        · exact Or.inr ⟨block, List.mem_cons_self, replacement, hexpand, hmem⟩
        · exact hlater (ih hrest)
      · exact hlater (ih h)

/-- The first pass brings no character in. -/
theorem mem_of_mem_showConditionals {context : Json} {text : List Char} {c : Char}
    (h : c ∈ showConditionals context text) : c ∈ text := by
  induction hn : text.length using Nat.strongRecOn generalizing text with
  | ind n ih =>
      rw [showConditionals] at h
      obtain htext | ⟨block, -, replacement, hexpand, hmem⟩ := mem_spliceFrom h
      · exact htext
      · split at hexpand
        · split at hexpand
          · split at hexpand
            · rename_i hlength
              cases hexpand
              exact mem_of_mem_slice (ih _ (hn ▸ hlength) hmem rfl)
            · cases hexpand
              cases hmem
          · cases hexpand
            cases hmem
        · cases hexpand

/-! ### The other passes -/

theorem not_mem_spliceGlyphsFrom {text : List Char} {expand : Block → Option (List Glyph)}
    {c : Char} (htext : c ∉ text) {blocks : List Block}
    (hexpand : ∀ block ∈ blocks, ∀ replacement, expand block = some replacement →
      c ∉ flatText replacement) (place : Nat) :
    c ∉ flatText (spliceGlyphsFrom text expand place blocks) := by
  induction blocks generalizing place with
  | nil =>
      rw [spliceGlyphsFrom, flatText_plainGlyphs]
      exact fun hmem => htext (List.mem_of_mem_drop hmem)
  | cons block rest ih =>
      have hrest := ih fun other hother => hexpand other (List.mem_cons_of_mem block hother)
      rw [spliceGlyphsFrom]
      split
      · rename_i replacement hsome
        rw [flatText_append, flatText_append, flatText_plainGlyphs, List.mem_append,
          List.mem_append]
        rintro ((hslice | hmem) | hlater)
        · exact htext (mem_of_mem_slice hslice)
        · exact hexpand block List.mem_cons_self replacement hsome hmem
        · exact hrest _ hlater
      · exact hrest place

theorem not_mem_substituteOpaque {context : Json} {c : Char}
    (hvalue : ∀ path, c ∉ displayOption (lookUp context path)) {gs : List Glyph}
    (h : c ∉ flatText gs) : c ∉ flatText (substituteOpaque context gs) := by
  have hdrop (n : Nat) (hs : List Glyph) (hhs : c ∉ flatText hs) : c ∉ flatText (hs.drop n) := by
    rw [← List.take_append_drop n hs, flatText_append, List.mem_append, not_or] at hhs
    exact hhs.2
  have htail (g : Glyph) (hs : List Glyph) (hhs : c ∉ flatText (g :: hs)) : c ∉ flatText hs :=
    hdrop 1 (g :: hs) hhs
  fun_induction substituteOpaque context gs with
  | case1 => exact h
  | case2 g rest path length hread ih =>
      rw [flatText_value, List.mem_append, not_or]
      exact ⟨hvalue path, ih (hdrop _ rest (htail g rest h))⟩
  | case3 g rest hread ih =>
      have hrest := ih (htail g rest h)
      cases g with
      | plain d =>
          rw [flatText_plain, List.mem_cons, not_or] at h ⊢
          exact ⟨h.1, hrest⟩
      | value text =>
          rw [flatText_value, List.mem_append, not_or] at h ⊢
          exact ⟨h.1, hrest⟩

/-- **No stand-in comes into a rendering**, if there is none in the template and in the context. -/
theorem standIn_not_mem_renderOpaque {text : List Char} (htext : standIn ∉ text) {context : Json}
    (hcontext : context.Lacks standIn) : standIn ∉ flatText (renderOpaque context text) := by
  induction hn : text.length using Nat.strongRecOn generalizing text context with
  | ind n ih =>
      have hshown : standIn ∉ showConditionals context text :=
        fun hmem => htext (mem_of_mem_showConditionals hmem)
      rw [renderOpaque]
      refine not_mem_substituteOpaque (not_mem_displayOption standIn_not_ascii hcontext) ?_
      refine not_mem_spliceGlyphsFrom hshown (fun block hblock replacement hexpand => ?_) 0
      split at hexpand
      · cases hexpand
        intro hmem
        obtain ⟨g, hg, hmem⟩ := List.mem_flatMap.mp hmem
        obtain ⟨scope, hscope, hg⟩ := List.mem_flatMap.mp hg
        have hargument : standIn ∉ block.argument :=
          fun hin => hshown (mem_of_mem_argument hblock hin)
        have hlacks := lacks_of_mem_loopScopes (by decide) hcontext hargument hscope
        have hbody : standIn ∉ block.body (showConditionals context text) :=
          fun hin => hshown (mem_of_mem_slice hin)
        beta_reduce at hg
        split at hg
        · rename_i hlength
          refine ih _ (hn ▸ hlength) hbody hlacks rfl ?_
          exact List.mem_flatMap.mpr ⟨g, hg, hmem⟩
        · cases hg
      · cases hexpand

end Rulebook.Template
