/-
**When the text of a value is scanned again.**

The braces of values are masked, so that nothing in a value is a variable by itself.  But the text
that the loops leave is scanned for variables again, and there a brace of the template may stand
before the text of a value and another one behind it (`Rulebook.Template.render_joinedList`).  This
module shows that it is the only way in which the text of a value gets read: a template is rendered
as if values were opaque exactly if no such place comes up in its rendering, at any depth of its
loops.

Main results:

* `Rulebook.Template.sideBySide_render` — a rendering beside the one with opaque values;
* `Rulebook.Template.clean_iff` — **the exact condition** under which the two agree.
-/

import Rulebook.Proofs.Template.Origin
import Rulebook.Proofs.Template.Swallowing

set_option autoImplicit false

namespace Rulebook.Template

/-! ### Renderings side by side -/

/-- A text and glyphs can be laid side by side, and nothing is swallowed exactly if `p` holds. -/
def SideBySide (p : Prop) (text : List Char) (gs : List Glyph) : Prop :=
  ∃ cells, Aligned cells text gs ∧ (swallows cells = 0 ↔ p)

namespace SideBySide

variable {p q : Prop} {s t : List Char} {gs hs : List Glyph}

theorem congr (h : SideBySide p s gs) (hpq : p ↔ q) : SideBySide q s gs := by
  obtain ⟨cells, hcells, hiff⟩ := h
  exact ⟨cells, hcells, hiff.trans hpq⟩

theorem plain (s : List Char) : SideBySide True s (plainGlyphs s) := by
  refine ⟨s.map .plain, ⟨?_, realText_plain s, cellGlyphs_plain s⟩, ?_⟩
  · intro cell hcell
    obtain ⟨c, -, rfl⟩ := List.mem_map.mp hcell
    trivial
  · exact iff_true_intro (swallows_plain s)

theorem append (h : SideBySide p s gs) (h' : SideBySide q t hs) :
    SideBySide (p ∧ q) (s ++ t) (gs ++ hs) := by
  obtain ⟨cells, ⟨hsound, rfl, rfl⟩, hp⟩ := h
  obtain ⟨others, ⟨hothers, rfl, rfl⟩, hq⟩ := h'
  refine ⟨cells ++ others, ⟨?_, realText_append cells others, cellGlyphs_append cells others⟩, ?_⟩
  · exact List.forall_mem_append.mpr ⟨hsound, hothers⟩
  · rw [swallows_append, ← hp, ← hq]
    omega

theorem flatMap {α : Type} {l : List α} {p : α → Prop} {f : α → List Char} {g : α → List Glyph}
    (h : ∀ a ∈ l, SideBySide (p a) (f a) (g a)) :
    SideBySide (∀ a ∈ l, p a) (l.flatMap f) (l.flatMap g) := by
  induction l with
  | nil => exact (plain []).congr (by simp)
  | cons a l ih =>
      obtain ⟨ha, hl⟩ := List.forall_mem_cons.mp h
      exact (ha.append (ih hl)).congr (by simp)

theorem spliceFrom {text : List Char} {expand : Block → Option (List Char)}
    {expandGlyphs : Block → Option (List Glyph)} {p : Block → Prop} {blocks : List Block}
    (h : ∀ block ∈ blocks,
      (∃ replacement glyphs, expand block = some replacement ∧ expandGlyphs block = some glyphs ∧
        SideBySide (p block) replacement glyphs) ∨
      (expand block = none ∧ expandGlyphs block = none ∧ p block)) (place : Nat) :
    SideBySide (∀ block ∈ blocks, p block) (spliceFrom text expand place blocks)
      (spliceGlyphsFrom text expandGlyphs place blocks) := by
  induction blocks generalizing place with
  | nil => exact (plain _).congr (by simp)
  | cons block rest ih =>
      obtain ⟨hblock, hrest⟩ := List.forall_mem_cons.mp h
      rw [Template.spliceFrom, spliceGlyphsFrom]
      obtain ⟨replacement, glyphs, hexpand, hglyphs, hside⟩ | ⟨hexpand, hglyphs, hp⟩ := hblock
      · simp only [hexpand, hglyphs]
        have hslice := plain (Text.slice text place block.opening.start)
        exact ((hslice.append hside).append (ih hrest block.closing.stop)).congr (by simp)
      · simp only [hexpand, hglyphs]
        exact (ih hrest place).congr (by simp [hp])

/-- The pass that replaces variables. -/
theorem substitute (h : SideBySide p s gs) (context : Json) :
    SideBySide (p ∧ Faithful gs) (substitute context s) (substituteOpaque context gs) := by
  obtain ⟨cells, ⟨hsound, rfl, rfl⟩, hp⟩ := h
  obtain ⟨others, hothers, hiff⟩ := passes context hsound
  exact ⟨others, hothers, by rw [hiff, hp]⟩

/-- A text is the masked text of the glyphs beside it exactly if nothing is swallowed. -/
theorem eq_maskedText_iff (h : SideBySide p s gs) : s = maskedText gs ↔ p := by
  obtain ⟨cells, ⟨hsound, rfl, rfl⟩, hp⟩ := h
  exact (realText_eq_iff hsound).trans hp

end SideBySide

/-! ### The whole rendering -/

/-- The second pass, if the bodies of the loops are rendered side by side. -/
theorem sideBySide_unroll {renderBody : Json → List Char → List Char}
    {renderGlyphs : Json → List Char → List Glyph} {p : Json → List Char → Prop} {context : Json}
    {text : List Char}
    (h : ∀ scope body, SideBySide (p scope body) (renderBody scope body)
      (renderGlyphs scope body)) :
    SideBySide (∀ rendered ∈ renderedBodies context text, p rendered.1 rendered.2)
      (unrollLoops renderBody context text) (unrollOpaque renderGlyphs context text) := by
  unfold unrollLoops splice unrollOpaque spliceGlyphs
  refine (SideBySide.spliceFrom (p := fun block => block.kind = .loop →
    ∀ scope ∈ loopScopes context block.argument, p scope (block.body text))
    (fun block _ => ?_) 0).congr ?_
  · cases hkind : block.kind with
    | loop =>
        refine Or.inl ⟨_, _, rfl, rfl, ?_⟩
        exact (SideBySide.flatMap fun scope _ => h scope (block.body text)).congr (by simp)
    | conditional => exact Or.inr ⟨rfl, rfl, by simp⟩
  · constructor
    · intro hall rendered hrendered
      obtain ⟨block, hblock, hin⟩ := List.mem_flatMap.mp hrendered
      obtain ⟨scope, hscope, rfl⟩ := List.mem_map.mp hin
      obtain ⟨hblock, hloop⟩ := List.mem_filter.mp hblock
      exact hall block hblock (eq_of_beq hloop) scope hscope
    · intro hall block hblock hloop scope hscope
      refine hall (scope, block.body text) (List.mem_flatMap.mpr ⟨block, ?_, ?_⟩)
      · exact List.mem_filter.mpr ⟨hblock, beq_iff_eq.mpr hloop⟩
      · exact List.mem_map.mpr ⟨scope, hscope, rfl⟩

/-- A template is clean if its own text is faithful when the third pass meets it, and the bodies of
its loops are clean in all their scopes. -/
theorem clean_iff_bodies (context : Json) (text : List Char) :
    Clean context text ↔
      (∀ rendered ∈ renderedBodies context (showConditionals context text),
        rendered.2.length < text.length → Clean rendered.1 rendered.2) ∧
      Faithful (unrollOpaque
        (fun scope body => if body.length < text.length then renderOpaque scope body else [])
        context (showConditionals context text)) := by
  rw [Clean, metTexts, List.forall_mem_cons, and_comm]
  refine and_congr_left fun _ => ?_
  constructor
  · intro hall rendered hrendered hlength gs hgs
    refine hall gs (List.mem_flatMap.mpr ⟨rendered, hrendered, ?_⟩)
    rwa [if_pos hlength]
  · intro hall gs hgs
    obtain ⟨rendered, hrendered, hgs⟩ := List.mem_flatMap.mp hgs
    split at hgs
    · rename_i hlength
      exact hall rendered hrendered hlength gs hgs
    · cases hgs

/-- **A rendering can be laid beside the one with opaque values**, and nothing is swallowed in it
exactly if the template is clean. -/
theorem sideBySide_render (context : Json) (text : List Char) :
    SideBySide (Clean context text) (renderScoped context text) (renderOpaque context text) := by
  induction hn : text.length using Nat.strongRecOn generalizing context text with
  | ind n ih =>
      have hbody (scope : Json) (body : List Char) :
          SideBySide (body.length < text.length → Clean scope body)
            (if body.length < text.length then renderScoped scope body else [])
            (if body.length < text.length then renderOpaque scope body else []) := by
        split
        · rename_i hlength
          exact (ih _ (hn ▸ hlength) scope body rfl).congr (by simp [hlength])
        · rename_i hlength
          exact (SideBySide.plain []).congr (by simp [hlength])
      rw [renderScoped, renderOpaque]
      exact ((sideBySide_unroll hbody).substitute context).congr
        (clean_iff_bodies context text).symm

/-- **When a template is rendered as if values were opaque.**  The rendering agrees with the one
that keeps values opaque, with the braces of values told from those of the template, exactly if the
template is clean in the context: in its rendering, at any depth of its loops, no variable is found
across the text of a value.  And then the final texts agree, as long as neither the template nor the
context has the character that stands for a brace. -/
theorem clean_iff {template : String} {context : Json} (htemplate : standIn ∉ template.toList)
    (hcontext : context.Lacks standIn) :
    (Clean context template.toList ↔
      renderScoped context template.toList =
        maskedText (renderOpaque context template.toList)) ∧
    (Clean context template.toList →
      render template context =
        String.ofList (flatText (renderOpaque context template.toList))) := by
  have hiff := (sideBySide_render context template.toList).eq_maskedText_iff
  refine ⟨hiff.symm, fun hclean => ?_⟩
  rw [render, renderText, hiff.mpr hclean,
    unmask_maskedText (standIn_not_mem_renderOpaque htemplate hcontext)]

/-- Names, one of which looks like a variable, and the value that it would have. -/
def names : Json :=
  .object [("names", .array [.string "ada", .string (Text.braced "secret")]), ("secret", .string "boo")]

/-- Braces around a list, with blanks before and after it. -/
def spacedList : String := 
  Text.braced (" " ++ Text.braced "#each names" ++ Text.braced "this" ++ ", " ++ Text.braced "/each" ++
    " ")

/-- With the blanks nothing is read again, braces and all. -/
theorem render_spacedList :
    standIn ∉ spacedList.toList ∧ names.Lacks standIn ∧ Clean names spacedList.toList ∧
      render spacedList names =
        String.ofList (flatText (renderOpaque names spacedList.toList)) := by
  have htemplate : standIn ∉ spacedList.toList := by decide +kernel
  have hnames : names.Lacks standIn := by
    simp only [names, Json.Lacks, Json.LacksFields, Json.LacksItems]
    decide +kernel
  have hclean : Clean names spacedList.toList := by decide +kernel
  exact ⟨htemplate, hnames, hclean, (clean_iff htemplate hnames).2 hclean⟩

/-! ### A value that is read again -/

/-- A name of a list, and the value that it has as the name of a variable. -/
def secret : Json :=
  .object [("names", .array [.string "secret"]), ("secret", .string "boo")]

/-- Braces around a list. -/
def joinedList : String := 
  Text.braced (Text.braced "#each names" ++ Text.braced "this" ++ Text.braced "/each")

/-- With no blanks the name in the list is read as a variable: the value `boo` is shown in the place
of the name and its braces. -/
theorem render_joinedList :
    render joinedList secret = "boo" ∧
      String.ofList (flatText (renderOpaque secret joinedList.toList)) =
        Text.braced "secret" := by
  constructor <;> decide +kernel

/-- Not every template is rendered as if values were opaque. -/
theorem not_all_opaque :
    ¬ ∀ (template : String) (context : Json), standIn ∉ template.toList →
      context.Lacks standIn →
        render template context =
          String.ofList (flatText (renderOpaque context template.toList)) := by
  intro h
  have hsecret : secret.Lacks standIn := by
    simp only [secret, Json.Lacks, Json.LacksFields, Json.LacksItems]
    decide +kernel
  have heq := h joinedList secret (by decide +kernel) hsecret
  rw [render_joinedList.1, render_joinedList.2] at heq
  exact absurd heq (by decide)

end Rulebook.Template
