/-
**A template does not tell a missing text from an empty one.**

A template sees its scope through conditions, loops and variables only.  A text that is empty counts
as false, is no list, has no parts, and shows as nothing; the same is true of a name that is not
there.  The one place where the two differ is a bare number or truth value in a comparison, which
stands for itself unless the scope has something under that name.  So two scopes that agree, but for
names that are missing in one and empty in the other and do not look like literals, give the same
rendering of every template.

The relation is carried through the three passes: the scopes of the items of a loop are related if
those around are, since the names that a loop sets are set to the same values.

Main definitions:

* `Rulebook.Template.IsVoid`, `Rulebook.Template.SameText` — missing or empty values, and values
  that differ in nothing else;
* `Rulebook.Template.Alike` — scopes that differ in nothing else.

Main results:

* `Rulebook.Template.Alike.lookUp`, `Rulebook.Template.Alike.holds`,
  `Rulebook.Template.Alike.loopItems` — what a template sees of two such scopes is the same;
* `Rulebook.Template.Alike.renderScoped` — **so is what it is rendered to**.
-/

import Rulebook.Template.Render

set_option autoImplicit false

namespace Rulebook.Template

/-! ### Missing and empty values -/

/-- Nothing, or an empty text. -/
def IsVoid (value : Option Json) : Prop := value = none ∨ value = some (.string "")

/-- What two scopes have under a name is the same, or else nothing in the one and an empty text in
the other; then the name is not that of a literal. -/
def SameText (name : List Char) (x y : Option Json) : Prop :=
  x = y ∨ (isBareLiteral name = false ∧ IsVoid x ∧ IsVoid y)

/-- Two scopes are alike: what they have under a name differs at most in being missing or empty. -/
inductive Alike : Json → Json → Prop where
  | intro {fields fields' : Fields} :
      (∀ key, SameText key.toList (Fields.get? fields key) (Fields.get? fields' key)) →
        Alike (.object fields) (.object fields')

theorem SameText.displayOption_eq {name : List Char} {x y : Option Json} (h : SameText name x y) :
    displayOption x = displayOption y := by
  obtain rfl | ⟨-, rfl | rfl, rfl | rfl⟩ := h
  all_goals simp [displayOption, display]

theorem SameText.isTruthy_eq {name : List Char} {x y : Option Json} (h : SameText name x y) :
    isTruthy x = isTruthy y := by
  obtain rfl | ⟨-, rfl | rfl, rfl | rfl⟩ := h
  all_goals simp [isTruthy]

/-- There is nothing inside of a void value. -/
theorem IsVoid.bind_selectAll {value : Option Json} (h : IsVoid value) (name : List Char)
    (rest : List (List Char)) : (value.bind fun inner => selectAll inner (name :: rest)) = none := by
  obtain rfl | rfl := h
  · rfl
  · rfl

/-! ### Looking up -/

theorem Alike.select {a b : Json} (h : Alike a b) (name : List Char) :
    SameText name (select a name) (select b name) := by
  cases h with
  | intro hfields =>
      have hname := hfields (String.ofList name)
      rwa [String.toList_ofList] at hname

/-- A path to a void value is a single name. -/
theorem Alike.resolve {a b : Json} (h : Alike a b) (path : List Char) :
    SameText (Text.trim path) (resolve a path) (resolve b path) := by
  have hjoin := Text.intercalate_segments '.' (Text.trim path)
  unfold Template.resolve
  cases hsegments : Text.segments '.' (Text.trim path) with
  | nil => exact absurd hsegments (Text.segments_ne_nil '.' (Text.trim path))
  | cons name rest =>
      rw [hsegments] at hjoin
      cases rest with
      | nil =>
          rw [List.intercalate_singleton] at hjoin
          rw [← hjoin]
          simpa [selectAll] using h.select name
      | cons second rest =>
          refine Or.inl ?_
          rw [selectAll, selectAll]
          obtain heq | ⟨-, ha, hb⟩ := h.select name
          · rw [heq]
          · rw [ha.bind_selectAll, hb.bind_selectAll]

theorem Alike.lookUp {a b : Json} (h : Alike a b) (path : List Char) :
    SameText (Text.trim path) (lookUp a path) (lookUp b path) := by
  have hwhole : SameText (Text.trim path) (Template.resolve a (Text.trim path))
      (Template.resolve b (Text.trim path)) := by
    have hresolve := h.resolve (Text.trim path)
    rwa [Text.trim_trim] at hresolve
  simp only [Template.lookUp]
  split
  · rename_i parent last _
    split
    · -- A text has no items and no field that is its length.
      refine Or.inl ?_
      obtain heq | ⟨-, ha | ha, hb | hb⟩ := h.resolve parent
      · rw [heq]
      all_goals rw [ha, hb]
      all_goals rfl
    · exact hwhole
  · exact hwhole

/-! ### Conditions and loops -/

theorem Alike.operand {a b : Json} (h : Alike a b) (raw : List Char) :
    operand a raw = operand b raw := by
  simp only [Template.operand]
  split
  · rfl
  · obtain heq | ⟨hliteral, ha | ha, hb | hb⟩ := h.lookUp (Text.trim raw)
    · rw [heq]
    all_goals
      rw [Text.trim_trim] at hliteral
      simp [ha, hb, hliteral, display]

theorem Alike.holdsPlain {a b : Json} (h : Alike a b) (condition : List Char) :
    holdsPlain a condition = holdsPlain b condition := by
  unfold Template.holdsPlain
  split
  · rename_i comparison _
    rw [h.operand comparison.left, h.operand comparison.right]
  · exact (h.lookUp condition).isTruthy_eq

/-- **The same conditions hold in scopes that are alike.** -/
theorem Alike.holds {a b : Json} (h : Alike a b) (condition : List Char) :
    holds a condition = holds b condition := by
  induction hn : condition.length using Nat.strongRecOn generalizing condition with
  | ind n ih =>
      rw [Template.holds, Template.holds]
      split
      · rename_i rest hnegated
        have hlt : rest.length < n := by
          rw [← hn]
          exact Nat.lt_of_lt_of_le (length_lt_of_negated? hnegated) (Text.length_trim_le condition)
        rw [ih rest.length hlt rest rfl]
      · exact h.holdsPlain (Text.trim condition)

theorem Alike.loopItems {a b : Json} (h : Alike a b) (path : List Char) :
    loopItems a path = loopItems b path := by
  unfold Template.loopItems
  obtain heq | ⟨-, ha | ha, hb | hb⟩ := h.resolve path
  · rw [heq]
  all_goals rw [ha, hb]

/-! ### The scopes of items -/

/-- Scopes stay alike if a name is given the same value in both. -/
theorem Alike.set {fields fields' : Fields} (h : Alike (.object fields) (.object fields'))
    (key : String) (value : Json) :
    Alike (.object (Fields.set key value fields)) (.object (Fields.set key value fields')) := by
  obtain ⟨hfields⟩ := h
  refine .intro fun other => ?_
  rw [Fields.get?_set, Fields.get?_set]
  split
  · exact Or.inl rfl
  · exact hfields other

theorem Alike.setAll {fields fields' : Fields} (h : Alike (.object fields) (.object fields'))
    (new : Fields) :
    Alike (.object (Fields.setAll fields new)) (.object (Fields.setAll fields' new)) := by
  induction new generalizing fields fields' with
  | nil => exact h
  | cons field rest ih => exact ih (h.set field.1 field.2)

/-- **The scopes of an item are alike if those around are.** -/
theorem Alike.itemScope {a b : Json} (h : Alike a b) (name : String) (item : Json)
    (index count : Nat) :
    Alike (itemScope a name item index count) (itemScope b name item index count) := by
  obtain ⟨hfields⟩ := h
  have hnamed := ((Alike.intro hfields).set name item).set "this" item
  exact (((hnamed.setAll (fieldsOf item)).set "@index" _).set "@first" _).set "@last" _

/-- What is done for each item of a loop comes out the same, if it does not tell scopes apart that
are alike. -/
theorem Alike.flatMap_loopScopes {a b : Json} (h : Alike a b) (path : List Char)
    {f g : Json → List Char} (hfg : ∀ {c d : Json}, Alike c d → f c = g d) :
    (loopScopes a path).flatMap f = (loopScopes b path).flatMap g := by
  have hmap : (loopScopes a path).map f = (loopScopes b path).map g := by
    refine List.ext_getElem (by simp [loopScopes, h.loopItems path]) fun i ha hb => ?_
    simp only [loopScopes, h.loopItems path, List.getElem_map, List.getElem_mapIdx]
    exact hfg (h.itemScope _ _ _ _)
  rw [List.flatMap_def, List.flatMap_def, hmap]

/-! ### The three passes -/

theorem Alike.showConditionals {a b : Json} (h : Alike a b) (text : List Char) :
    showConditionals a text = showConditionals b text := by
  induction hn : text.length using Nat.strongRecOn generalizing text with
  | ind n ih =>
      rw [Template.showConditionals, Template.showConditionals]
      refine congrArg (splice text) (funext fun block => ?_)
      split
      · rw [h.holds block.argument]
        split
        · split
          · rename_i hlt
            rw [ih _ (hn ▸ hlt) (block.body text) rfl]
          · rfl
        · rfl
      · rfl

theorem Alike.unrollLoops {a b : Json} (h : Alike a b) {f g : Json → List Char → List Char}
    (hfg : ∀ {c d : Json}, Alike c d → ∀ body, f c body = g d body) (text : List Char) :
    unrollLoops f a text = unrollLoops g b text := by
  unfold Template.unrollLoops
  refine congrArg (splice text) (funext fun block => ?_)
  split
  · rw [h.flatMap_loopScopes block.argument fun hscope => hfg hscope (block.body text)]
  · rfl

theorem Alike.substitute {a b : Json} (h : Alike a b) (text : List Char) :
    substitute a text = substitute b text := by
  have hpiece : substitutePiece a = substitutePiece b := by
    funext piece
    cases piece with
    | plain c => rfl
    | token path source => rw [substitutePiece, substitutePiece, (h.lookUp path).displayOption_eq]
  rw [Template.substitute, Template.substitute, hpiece]

/-- **Scopes that are alike give the same rendering of every text.** -/
theorem Alike.renderScoped {a b : Json} (h : Alike a b) (text : List Char) :
    renderScoped a text = renderScoped b text := by
  induction hn : text.length using Nat.strongRecOn generalizing a b text with
  | ind n ih =>
      have hbodies {c d : Json} (hscope : Alike c d) (body : List Char) :
          (if body.length < text.length then Template.renderScoped c body else []) =
            if body.length < text.length then Template.renderScoped d body else [] := by
        split
        · rename_i hlt
          exact ih body.length (hn ▸ hlt) hscope body rfl
        · rfl
      rw [Template.renderScoped, Template.renderScoped, h.showConditionals text,
        h.unrollLoops hbodies, h.substitute]

theorem Alike.render {a b : Json} (h : Alike a b) (template : String) :
    render template a = render template b := by
  rw [Template.render, Template.render, renderText, renderText, h.renderScoped]

end Rulebook.Template
