/-
**What overrides leave of a rule.**

A list of overrides is applied to a rule one by one, but all that can be seen afterwards is a state
and a severity.  The net effect of the list (`Rulebook.Override.netEffect`) keeps just that, and
this module shows that nothing is lost: a list acts on a rule as its net effect does, and the net
effect of one list after another is that of the two joined.  So questions about overrides become
questions about pairs of optional values, in which a later value hides an earlier one.

Main definitions:

* `Rulebook.Override.NetEffect.applyTo` — a rule after a net effect;
* `Rulebook.Override.NetEffect.followedBy` — one net effect after another;
* `Rulebook.Overrides.effect` — what a collection leaves of a rule for a list of categories.

Main results:

* `Rulebook.Override.applyList_eq` — a list of overrides acts as its net effect;
* `Rulebook.Overrides.applyLayered_eq` — so does a collection, for any list of categories;
* `Rulebook.Overrides.applyLayered_applyLayered` — layering more categories on a rule forgets what
  fewer of them did to it.
-/

import Rulebook.Override.Fragment

set_option autoImplicit false

namespace Rulebook

namespace Override

/-! ### Net effects -/

namespace NetEffect

/-- The effect of no override. -/
def nothing : NetEffect := ⟨none, none⟩

/-- A rule after a net effect. -/
def applyTo (e : NetEffect) (rule : Rule) : Rule :=
  { rule with
    enabled := e.enabled.getD rule.enabled
    severity := e.severity.getD rule.severity }

/-- One net effect after another: what the later one leaves open is as the earlier one left it. -/
def followedBy (e f : NetEffect) : NetEffect :=
  ⟨f.enabled.or e.enabled, f.severity.or e.severity⟩

@[simp] theorem enabled_applyTo (e : NetEffect) (rule : Rule) :
    (e.applyTo rule).enabled = e.enabled.getD rule.enabled := rfl

@[simp] theorem severity_applyTo (e : NetEffect) (rule : Rule) :
    (e.applyTo rule).severity = e.severity.getD rule.severity := rfl

@[simp] theorem applyTo_nothing (rule : Rule) : nothing.applyTo rule = rule := rfl

@[simp] theorem nothing_followedBy (e : NetEffect) : nothing.followedBy e = e := by
  simp [followedBy, nothing]

@[simp] theorem followedBy_nothing (e : NetEffect) : e.followedBy nothing = e := by
  simp [followedBy, nothing]

theorem followedBy_assoc (e f g : NetEffect) :
    (e.followedBy f).followedBy g = e.followedBy (f.followedBy g) := by
  simp [followedBy, Option.or_assoc]

theorem applyTo_followedBy (e f : NetEffect) (rule : Rule) :
    (e.followedBy f).applyTo rule = f.applyTo (e.applyTo rule) := by
  simp only [applyTo, followedBy, Option.getD_or]

/-- An effect hides the same effect before it, whatever stands in between. -/
theorem followedBy_followedBy_self (e f : NetEffect) :
    e.followedBy (f.followedBy e) = f.followedBy e := by
  obtain ⟨enabled, severity⟩ := e
  have henabled : (enabled.or f.enabled).or enabled = enabled.or f.enabled := by
    cases enabled <;> simp
  have hseverity : (severity.or f.severity).or severity = severity.or f.severity := by
    cases severity <;> simp
  simp only [followedBy, henabled, hseverity]

end NetEffect

/-! ### Lists of overrides -/

theorem after_eq_followedBy (e : NetEffect) (o : Override) :
    e.after o = e.followedBy (NetEffect.nothing.after o) := by
  cases h : o.action <;> simp [NetEffect.after, NetEffect.followedBy, NetEffect.nothing, h]

theorem foldl_after (e : NetEffect) (os : List Override) :
    os.foldl NetEffect.after e = e.followedBy (netEffect os) := by
  induction os generalizing e with
  | nil => exact (NetEffect.followedBy_nothing e).symm
  | cons o os ih =>
      have hcons : netEffect (o :: os) = os.foldl NetEffect.after (NetEffect.nothing.after o) := rfl
      rw [List.foldl_cons, ih, hcons, ih, after_eq_followedBy, NetEffect.followedBy_assoc]

@[simp] theorem netEffect_nil : netEffect [] = NetEffect.nothing := rfl

theorem netEffect_cons (o : Override) (os : List Override) :
    netEffect (o :: os) = (NetEffect.nothing.after o).followedBy (netEffect os) :=
  foldl_after (NetEffect.nothing.after o) os

/-- The net effect of two lists joined is that of the first followed by that of the second. -/
theorem netEffect_append (os ps : List Override) :
    netEffect (os ++ ps) = (netEffect os).followedBy (netEffect ps) := by
  rw [netEffect, List.foldl_append, foldl_after]
  rfl

/-- An override acts on a rule as its net effect does. -/
theorem applyTo_eq (o : Override) (rule : Rule) :
    o.applyTo rule = (NetEffect.nothing.after o).applyTo rule := by
  cases h : o.action <;> simp [applyTo, NetEffect.after, NetEffect.applyTo, NetEffect.nothing, h]

/-- **A list of overrides acts on a rule as its net effect does.** -/
theorem applyList_eq (os : List Override) (rule : Rule) :
    applyList os rule = (netEffect os).applyTo rule := by
  induction os generalizing rule with
  | nil => rfl
  | cons o os ih =>
      rw [applyList_cons, ih, netEffect_cons, NetEffect.applyTo_followedBy, applyTo_eq]

end Override

/-! ### Collections -/

namespace Overrides

open Override (netEffect NetEffect)

/-- What a collection leaves of the rule with an id, for a list of categories. -/
def effect (os : Overrides) (ruleId : String) (categories : List Category) : NetEffect :=
  netEffect ((layers categories).flatMap (os.get ruleId))

theorem apply_eq (os : Overrides) (rule : Rule) (category : Category) :
    os.apply rule category = (netEffect (os.get rule.id category)).applyTo rule :=
  Override.applyList_eq _ rule

theorem foldl_apply_eq (os : Overrides) (rule : Rule) (categories : List Category) :
    categories.foldl os.apply rule =
      (netEffect (categories.flatMap (os.get rule.id))).applyTo rule := by
  induction categories generalizing rule with
  | nil => rfl
  | cons c rest ih =>
      rw [List.foldl_cons, ih, id_apply, apply_eq, List.flatMap_cons, Override.netEffect_append,
        NetEffect.applyTo_followedBy]

/-- **A collection acts on a rule as what it leaves for the categories does.** -/
theorem applyLayered_eq (os : Overrides) (rule : Rule) (categories : List Category) :
    os.applyLayered rule categories = (os.effect rule.id categories).applyTo rule :=
  foldl_apply_eq os rule (layers categories)

/-! ### Layers upon layers -/

/-- The effect of some groups is hidden by that of the same groups and others. -/
theorem netEffect_flatMap_followedBy (os : Overrides) (ruleId : String) {few many : List Category}
    (h : few ⊆ many) :
    (netEffect (few.flatMap (os.get ruleId))).followedBy
        (netEffect (many.flatMap (os.get ruleId))) =
      netEffect (many.flatMap (os.get ruleId)) := by
  induction few with
  | nil => exact NetEffect.nothing_followedBy _
  | cons c few ih =>
      obtain ⟨hc, hfew⟩ := List.cons_subset.mp h
      obtain ⟨before, behind, rfl⟩ := List.append_of_mem hc
      -- The group of `c` comes again within `many`, and hides what it did the first time.
      rw [List.flatMap_cons, Override.netEffect_append, NetEffect.followedBy_assoc, ih hfew]
      rw [List.flatMap_append, List.flatMap_cons, Override.netEffect_append,
        Override.netEffect_append]
      rw [← NetEffect.followedBy_assoc (netEffect (before.flatMap (os.get ruleId))),
        ← NetEffect.followedBy_assoc, NetEffect.followedBy_followedBy_self]

theorem mem_layers {category : Category} {categories : List Category} :
    category ∈ layers categories ↔ category = .universal ∨ category ∈ categories := by
  by_cases h : category = .universal <;> simp [layers, h]

theorem layers_subset {few many : List Category} (h : few ⊆ many) :
    layers few ⊆ layers many := by
  intro category hcategory
  rw [mem_layers] at hcategory ⊢
  exact hcategory.imp_right fun hfew => h hfew

/-- **Layering more categories on a rule forgets what fewer of them did to it.** -/
theorem applyLayered_applyLayered (os : Overrides) (rule : Rule) {few many : List Category}
    (h : few ⊆ many) :
    os.applyLayered (os.applyLayered rule few) many = os.applyLayered rule many := by
  rw [applyLayered_eq _ (os.applyLayered rule few), id_applyLayered, applyLayered_eq,
    applyLayered_eq, ← NetEffect.applyTo_followedBy, effect, effect,
    netEffect_flatMap_followedBy os rule.id (layers_subset h)]

end Overrides

end Rulebook
