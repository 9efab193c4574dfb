/-
**Rendering with opaque values.**

The renderer puts the text of a value into the text of the template and goes on with the whole.
This module defines the rendering that it stands for, in which a value stays a piece of its own: the
passes are the same, but a variable is read only where all its characters come from the template,
with no value in between.  The two can differ only in the pass that replaces variables, since the
other passes meet the text of the template alone.

Main definitions:

* `Rulebook.Template.Glyph` — a character of a template, or a value that was put in;
* `Rulebook.Template.substituteOpaque`, `Rulebook.Template.renderOpaque` — the pass that replaces
  variables, and all passes, with opaque values;
* `Rulebook.Template.Faithful` — where plain text is read as it would be with opaque values;
* `Rulebook.Template.Clean` — a template in whose rendering the text of values is never read.
-/

import Mathlib.Data.List.Infix
import Rulebook.Proofs.Template.Substitution
import Rulebook.Template.Render

set_option autoImplicit false

namespace Rulebook.Template

/-! ### Glyphs -/

/-- A character of a template, or the text of a value that was put in. -/
inductive Glyph where
  /-- A character of a template. -/
  | plain (c : Char)
  /-- The text of a value. -/
  | value (text : List Char)
  deriving DecidableEq, Repr

/-- The text of a list of glyphs. -/
def flatText (gs : List Glyph) : List Char :=
  gs.flatMap fun g =>
    match g with
    | .plain c => [c]
    | .value text => text

/-- The text of a list of glyphs, with stand-ins for the braces of values. -/
def maskedText (gs : List Glyph) : List Char :=
  gs.flatMap fun g =>
    match g with
    | .plain c => [c]
    | .value text => mask text

/-- The characters of a template up to the first value. -/
def plainPrefix : List Glyph → List Char
  | .plain c :: rest => c :: plainPrefix rest
  | _ => []

/-- The characters of a template as glyphs. -/
def plainGlyphs (s : List Char) : List Glyph := s.map .plain

@[simp] theorem maskedText_nil : maskedText [] = [] := rfl

@[simp] theorem maskedText_plain (c : Char) (gs : List Glyph) :
    maskedText (.plain c :: gs) = c :: maskedText gs := rfl

@[simp] theorem maskedText_value (text : List Char) (gs : List Glyph) :
    maskedText (.value text :: gs) = mask text ++ maskedText gs := rfl

@[simp] theorem maskedText_append (gs hs : List Glyph) :
    maskedText (gs ++ hs) = maskedText gs ++ maskedText hs := by
  simp [maskedText]

@[simp] theorem maskedText_plainGlyphs (s : List Char) : maskedText (plainGlyphs s) = s := by
  induction s with
  | nil => rfl
  | cons c s ih =>
      have hcons : plainGlyphs (c :: s) = .plain c :: plainGlyphs s := rfl
      rw [hcons, maskedText_plain, ih]

@[simp] theorem flatText_nil : flatText [] = [] := rfl

@[simp] theorem flatText_plain (c : Char) (gs : List Glyph) :
    flatText (.plain c :: gs) = c :: flatText gs := rfl

@[simp] theorem flatText_value (text : List Char) (gs : List Glyph) :
    flatText (.value text :: gs) = text ++ flatText gs := rfl

@[simp] theorem flatText_append (gs hs : List Glyph) :
    flatText (gs ++ hs) = flatText gs ++ flatText hs := by
  simp [flatText]

@[simp] theorem flatText_plainGlyphs (s : List Char) : flatText (plainGlyphs s) = s := by
  induction s with
  | nil => rfl
  | cons c s ih =>
      have hcons : plainGlyphs (c :: s) = .plain c :: plainGlyphs s := rfl
      rw [hcons, flatText_plain, ih]

/-- Unmasking undoes masking in a text without stand-ins. -/
theorem unmask_maskedText {gs : List Glyph} (h : standIn ∉ flatText gs) :
    unmask (maskedText gs) = flatText gs := by
  induction gs with
  | nil => rfl
  | cons g gs ih =>
      cases g with
      | plain c =>
          rw [flatText_plain, List.mem_cons, not_or] at h
          have hc : unmask [c] = [c] := by simp [unmask, Ne.symm h.1]
          rw [maskedText_plain, flatText_plain, ← List.singleton_append, unmask_append, hc, ih h.2]
          rfl
      | value text =>
          rw [flatText_value, List.mem_append, not_or] at h
          rw [maskedText_value, flatText_value, unmask_append, unmask_mask h.1, ih h.2]

theorem plainPrefix_plainGlyphs (s : List Char) (gs : List Glyph) :
    plainPrefix (plainGlyphs s ++ gs) = s ++ plainPrefix gs := by
  induction s with
  | nil => rfl
  | cons c s ih =>
      have hcons : plainGlyphs (c :: s) ++ gs = .plain c :: (plainGlyphs s ++ gs) := rfl
      rw [hcons, plainPrefix, ih]
      rfl

/-- The characters up to the first value stand at the beginning of the glyphs. -/
theorem exists_plainPrefix (gs : List Glyph) :
    ∃ rest, gs = plainGlyphs (plainPrefix gs) ++ rest := by
  induction gs with
  | nil => exact ⟨[], rfl⟩
  | cons g gs ih =>
      cases g with
      | plain c =>
          obtain ⟨rest, hrest⟩ := ih
          refine ⟨rest, ?_⟩
          rw [plainPrefix]
          exact congrArg (List.cons (.plain c)) hrest
      | value text => exact ⟨.value text :: gs, rfl⟩

/-! ### The pass that replaces variables -/

/-- Glyphs with the values of the variables in their places.  A variable is read from characters of
a template only. -/
def substituteOpaque (context : Json) : List Glyph → List Glyph
  | [] => []
  | g :: rest =>
    match Variable.read? (plainPrefix (g :: rest)) with
    | some (path, length) =>
      .value (displayOption (lookUp context path)) ::
        substituteOpaque context (rest.drop (length - 1))
    | none => g :: substituteOpaque context rest
termination_by gs => gs.length
decreasing_by all_goals simp only [List.length_drop, List.length_cons]; omega

theorem substituteOpaque_of_none (context : Json) {g : Glyph} {rest : List Glyph}
    (h : Variable.read? (plainPrefix (g :: rest)) = none) :
    substituteOpaque context (g :: rest) = g :: substituteOpaque context rest := by
  rw [substituteOpaque, h]

theorem substituteOpaque_variableSource (context : Json) {path : List Char} (gs : List Glyph)
    (h : IsPath path) :
    substituteOpaque context (plainGlyphs (variableSource path) ++ gs) =
      .value (displayOption (lookUp context path)) :: substituteOpaque context gs := by
  have hread : Variable.read? (plainPrefix (plainGlyphs (variableSource path) ++ gs)) =
      some (path, (variableSource path).length) := by
    rw [plainPrefix_plainGlyphs]
    exact Variable.read?_variableSource _ h
  have hcons : plainGlyphs (variableSource path) ++ gs =
      .plain '{' :: (plainGlyphs (path ++ ['}']) ++ gs) := rfl
  have hdrop : (plainGlyphs (path ++ ['}']) ++ gs).drop
      ((variableSource path).length - 1) = gs := by
    have hlength : (variableSource path).length - 1 =
        (plainGlyphs (path ++ ['}'])).length := by
      simp [variableSource, plainGlyphs]
    rw [hlength, List.drop_left]
  rw [hcons] at hread ⊢
  rw [substituteOpaque, hread]
  simp only [hdrop]

/-- A variable that is read from glyphs stands at their beginning, character by character. -/
theorem exists_of_read?_plainPrefix {gs : List Glyph} {found : List Char × Nat}
    (h : Variable.read? (plainPrefix gs) = some found) :
    ∃ path rest, IsPath path ∧ gs = plainGlyphs (variableSource path) ++ rest := by
  obtain ⟨path, tail, hpath, hs, -⟩ := Variable.read?_eq_some_iff.mp h
  obtain ⟨rest, hrest⟩ := exists_plainPrefix gs
  refine ⟨path, plainGlyphs tail ++ rest, hpath, ?_⟩
  rw [hrest, hs]
  simp [plainGlyphs]

/-! ### Faithful texts -/

/-- From every character of a template the masked text is read as with opaque values: either the
same variable begins there, or none. -/
def Faithful (gs : List Glyph) : Prop :=
  ∀ c rest, (.plain c :: rest : List Glyph) <:+ gs →
    Variable.read? (maskedText (.plain c :: rest)) = Variable.read? (plainPrefix (.plain c :: rest))

theorem Faithful.of_suffix {gs hs : List Glyph} (h : Faithful gs) (hsuffix : hs <:+ gs) :
    Faithful hs :=
  fun c rest hrest => h c rest (hrest.trans hsuffix)

/-- Whether a glyph is a character of a template. -/
def Glyph.isPlain : Glyph → Bool
  | .plain _ => true
  | .value _ => false

instance (gs : List Glyph) : Decidable (Faithful gs) :=
  decidable_of_iff (∀ s ∈ gs.tails, s.head?.any Glyph.isPlain →
      Variable.read? (maskedText s) = Variable.read? (plainPrefix s)) <| by
    simp only [List.mem_tails, Faithful]
    constructor
    · intro h c rest hrest
      exact h _ hrest rfl
    · intro h s hs hplain
      match s, hs, hplain with
      | .plain c :: rest, hs, _ => exact h c rest hs

/-! ### All passes -/

/-- The glyphs of a text from a place on, with the blocks replaced for which `expand` has a
replacement. -/
def spliceGlyphsFrom (text : List Char) (expand : Block → Option (List Glyph)) :
    Nat → List Block → List Glyph
  | place, [] => plainGlyphs (text.drop place)
  | place, block :: rest =>
    match expand block with
    | some replacement =>
      plainGlyphs (Text.slice text place block.opening.start) ++ replacement ++
        spliceGlyphsFrom text expand block.closing.stop rest
    | none => spliceGlyphsFrom text expand place rest

/-- The glyphs of a text with the outer blocks replaced for which `expand` has a replacement. -/
def spliceGlyphs (text : List Char) (expand : Block → Option (List Glyph)) : List Glyph :=
  spliceGlyphsFrom text expand 0 (outerBlocks (marks text))

/-- The glyphs of a text with the loops unrolled, their bodies being rendered by `renderBody`. -/
def unrollOpaque (renderBody : Json → List Char → List Glyph) (context : Json)
    (text : List Char) : List Glyph :=
  spliceGlyphs text fun block =>
    match block.kind with
    | .loop =>
      some ((loopScopes context block.argument).flatMap fun scope =>
        renderBody scope (block.body text))
    | .conditional => none

/-- A template rendered against a context, with opaque values. -/
def renderOpaque (context : Json) (text : List Char) : List Glyph :=
  let shown := showConditionals context text
  let unrolled := unrollOpaque
    (fun scope body => if body.length < text.length then renderOpaque scope body else [])
    context shown
  substituteOpaque context unrolled
termination_by text.length

/-- The outer loops of a text with their scopes: what the second pass renders, body by body. -/
def renderedBodies (context : Json) (text : List Char) : List (Json × List Char) :=
  ((outerBlocks (marks text)).filter fun block => block.kind == .loop).flatMap fun block =>
    (loopScopes context block.argument).map fun scope => (scope, block.body text)

/-- The texts that the third pass meets when a template is rendered with opaque values: that of the
template itself, and those of the bodies of its loops, at every depth. -/
def metTexts (context : Json) (text : List Char) : List (List Glyph) :=
  let shown := showConditionals context text
  unrollOpaque (fun scope body => if body.length < text.length then renderOpaque scope body else [])
      context shown ::
    (renderedBodies context shown).flatMap fun rendered =>
      if rendered.2.length < text.length then metTexts rendered.1 rendered.2 else []
termination_by text.length

/-- In the rendering of a clean template the text of values is never read: no variable is found at
a place where opaque values would keep it from being found. -/
def Clean (context : Json) (text : List Char) : Prop := ∀ gs ∈ metTexts context text, Faithful gs

instance (context : Json) (text : List Char) : Decidable (Clean context text) :=
  inferInstanceAs (Decidable (∀ gs ∈ metTexts context text, Faithful gs))

end Rulebook.Template
