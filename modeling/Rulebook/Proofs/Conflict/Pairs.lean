/-
**The pairs behind a list of conflicts.**

The conflicts of a list of rules come from its pairs: two rules of which one stands before the other
in the list.  So a question about the conflicts of a list is one about pairs of it, and about the
checks that are made of a pair.  Three of the four checks look at nothing that an override can
change; the check of precedence looks at the severities.

Main results:

* `Rulebook.Conflict.mem_among` — the conflicts of a list are those of its pairs;
* `Rulebook.Conflict.isSome_classify_applyTo` — when two rules that are in conflict still are after
  overrides.
-/

import Rulebook.Conflict.Scan
import Rulebook.Proofs.Override.Effect

set_option autoImplicit false

namespace Rulebook.Conflict

open Override (NetEffect)

/-! ### Pairs of a list -/

theorem pair_sublist_cons {α : Type} {a b x : α} {l : List α} :
    [a, b].Sublist (x :: l) ↔ (a = x ∧ b ∈ l) ∨ [a, b].Sublist l := by
  constructor
  · intro h
    cases h with
    | cons _ h => exact Or.inr h
    | cons_cons _ h => exact Or.inl ⟨rfl, List.singleton_sublist.mp h⟩
  · rintro (⟨rfl, hb⟩ | h)
    · exact (List.singleton_sublist.mpr hb).cons_cons a
    · exact h.cons x

theorem pair_sublist_filter {α : Type} {p : α → Bool} {a b : α} {l : List α} :
    [a, b].Sublist (l.filter p) ↔ [a, b].Sublist l ∧ p a ∧ p b := by
  constructor
  · intro h
    have ha : a ∈ l.filter p := h.subset (by simp)
    have hb : b ∈ l.filter p := h.subset (by simp)
    exact ⟨h.trans List.filter_sublist, (List.mem_filter.mp ha).2, (List.mem_filter.mp hb).2⟩
  · rintro ⟨h, ha, hb⟩
    simpa [ha, hb] using h.filter p

theorem pair_sublist_map {α β : Type} {f : α → β} {a b : β} {l : List α} :
    [a, b].Sublist (l.map f) ↔ ∃ r s, [r, s].Sublist l ∧ f r = a ∧ f s = b := by
  rw [List.sublist_map_iff]
  constructor
  · rintro ⟨pair, hpair, hmap⟩
    obtain ⟨r, rest, rfl, hr, hrest⟩ := List.map_eq_cons_iff.mp hmap.symm
    obtain ⟨s, last, rfl, hs, hlast⟩ := List.map_eq_cons_iff.mp hrest
    obtain rfl := List.map_eq_nil_iff.mp hlast
    exact ⟨r, s, hpair, hr, hs⟩
  · rintro ⟨r, s, hpair, rfl, rfl⟩
    exact ⟨[r, s], hpair, rfl⟩

/-! ### Conflicts of a pair -/

/-- The checks are tried one after the other. -/
theorem classify_eq (a b : Rule) :
    classify a b =
      (direct? a b).or ((implicit? a b).or ((precedence? a b).or (scope? a b))) := by
  simp only [classify, checks, List.findSome?_cons, List.findSome?_nil]
  cases direct? a b <;> cases implicit? a b <;> cases precedence? a b <;> cases scope? a b <;> rfl

theorem rules_of_direct? {a b : Rule} {c : Conflict} (h : direct? a b = some c) :
    c.kind = .direct ∧ c.first = a ∧ c.second = b := by
  unfold direct? at h
  split at h
  · cases h
    exact ⟨rfl, rfl, rfl⟩
  · cases h

theorem rules_of_implicit? {a b : Rule} {c : Conflict} (h : implicit? a b = some c) :
    c.kind = .implicit ∧ c.first = a ∧ c.second = b := by
  obtain ⟨pair, -, hpair⟩ := List.exists_of_findSome?_eq_some h
  obtain ⟨sides, -, rfl⟩ := Option.map_eq_some_iff.mp hpair
  exact ⟨rfl, rfl, rfl⟩

theorem rules_of_precedence? {a b : Rule} {c : Conflict} (h : precedence? a b = some c) :
    c.kind = .precedence ∧ c.first = a ∧ c.second = b := by
  unfold precedence? at h
  split at h
  · cases h
    exact ⟨rfl, rfl, rfl⟩
  · cases h

theorem rules_of_scope? {a b : Rule} {c : Conflict} (h : scope? a b = some c) :
    c.kind = .scope ∧ c.first = a ∧ c.second = b := by
  unfold scope? at h
  split at h
  · cases h
    exact ⟨rfl, rfl, rfl⟩
  · cases h

/-- The conflict of two rules is about these rules, in this order. -/
theorem rules_of_classify {a b : Rule} {c : Conflict} (h : classify a b = some c) :
    c.first = a ∧ c.second = b := by
  rw [classify_eq, Option.or_eq_some_iff, Option.or_eq_some_iff, Option.or_eq_some_iff] at h
  obtain h | ⟨-, h | ⟨-, h | ⟨-, h⟩⟩⟩ := h
  · exact (rules_of_direct? h).2
  · exact (rules_of_implicit? h).2
  · exact (rules_of_precedence? h).2
  · exact (rules_of_scope? h).2

theorem mem_withRest {a : Rule} {rest : List Rule} {c : Conflict} :
    c ∈ withRest a rest ↔ ∃ b ∈ rest, a.id ≠ b.id ∧ classify a b = some c := by
  simp [withRest, List.mem_filterMap, and_assoc]

/-- **The conflicts of a list of rules are those of its pairs**, the rules of one id apart. -/
theorem mem_among {rules : List Rule} {c : Conflict} :
    c ∈ among rules ↔
      [c.first, c.second].Sublist rules ∧ c.first.id ≠ c.second.id ∧
        classify c.first c.second = some c := by
  induction rules with
  | nil => simp [among]
  | cons a rest ih =>
      rw [among, List.mem_append, ih, mem_withRest, pair_sublist_cons]
      constructor
      · rintro (⟨b, hb, hid, hc⟩ | ⟨hpair, hc⟩)
        · obtain ⟨rfl, rfl⟩ := rules_of_classify hc
          exact ⟨Or.inl ⟨rfl, hb⟩, hid, hc⟩
        · exact ⟨Or.inr hpair, hc⟩
      · rintro ⟨⟨rfl, hb⟩ | hpair, hid, hc⟩
        · exact Or.inl ⟨c.second, hb, hid, hc⟩
        · exact Or.inr ⟨hpair, hid, hc⟩

/-- Two rules of a list that are in conflict make a conflict of the list. -/
theorem exists_mem_among {rules : List Rule} {a b : Rule} (hpair : [a, b].Sublist rules)
    (hid : a.id ≠ b.id) (h : (classify a b).isSome) :
    ∃ c ∈ among rules, c.first = a ∧ c.second = b := by
  obtain ⟨c, hc⟩ := Option.isSome_iff_exists.mp h
  obtain ⟨rfl, rfl⟩ := rules_of_classify hc
  exact ⟨c, mem_among.mpr ⟨hpair, hid, hc⟩, rfl, rfl⟩

/-! ### Checks after overrides -/

section

variable (e f : NetEffect) (a b : Rule)

theorem isSome_direct?_applyTo :
    (direct? (e.applyTo a) (f.applyTo b)).isSome = (direct? a b).isSome := by
  have hdirect (x y : Rule) : (direct? x y).isSome =
      (x.concernsMemory && y.concernsMemory && x.overlaps y && x.opposes y) := by
    unfold direct?
    split <;> simp_all
  rw [hdirect, hdirect]
  rfl

theorem isSome_implicit?_applyTo :
    (implicit? (e.applyTo a) (f.applyTo b)).isSome = (implicit? a b).isSome := by
  have himplicit (x y : Rule) : (implicit? x y).isSome ↔
      ∃ pair ∈ Keyword.incompatible, (sides? x.keywords y.keywords pair).isSome := by
    simp only [implicit?, List.findSome?_isSome_iff, Option.isSome_map]
  exact Bool.eq_iff_iff.mpr ((himplicit _ _).trans (himplicit a b).symm)

theorem isSome_precedence?_applyTo :
    (precedence? (e.applyTo a) (f.applyTo b)).isSome =
      (a.overlaps b && (e.applyTo a).severity != (f.applyTo b).severity && a.topic == b.topic) := by
  have hprecedence (x y : Rule) : (precedence? x y).isSome =
      (x.overlaps y && x.severity != y.severity && x.topic == y.topic) := by
    unfold precedence?
    split <;> simp_all
  rw [hprecedence]
  rfl

theorem isSome_scope?_applyTo :
    (scope? (e.applyTo a) (f.applyTo b)).isSome = (scope? a b).isSome := by
  have hscope (x y : Rule) : (scope? x y).isSome =
      (x.isUniversal != y.isUniversal && 2 < (sharedKeywords x y).length) := by
    unfold scope?
    split <;> simp_all
  rw [hscope, hscope]
  rfl

end

/-- **Two rules in conflict still are after overrides**, unless the conflict is one of precedence,
the severities have become the same, and no check but that of precedence applies. -/
theorem isSome_classify_applyTo (e f : NetEffect) {a b : Rule} {c : Conflict}
    (h : classify a b = some c) :
    (classify (e.applyTo a) (f.applyTo b)).isSome ↔
      (c.kind = .precedence →
        (e.applyTo a).severity ≠ (f.applyTo b).severity ∨ (scope? a b).isSome) := by
  rw [classify_eq, Option.or_eq_some_iff, Option.or_eq_some_iff, Option.or_eq_some_iff] at h
  rw [classify_eq, Option.isSome_or, Option.isSome_or, Option.isSome_or, isSome_direct?_applyTo,
    isSome_implicit?_applyTo, isSome_precedence?_applyTo, isSome_scope?_applyTo]
  obtain h | ⟨hdirect, h | ⟨himplicit, h | ⟨-, h⟩⟩⟩ := h
  · simp [h, (rules_of_direct? h).1]
  · simp [h, (rules_of_implicit? h).1]
  · -- The rules overlap and have one topic, so the check of precedence is one of the severities.
    have hsame : a.overlaps b = true ∧ a.topic = b.topic := by
      unfold precedence? at h
      split at h
      · simp_all
      · cases h
    simp [hdirect, himplicit, hsame, (rules_of_precedence? h).1]
  · simp [h, (rules_of_scope? h).1]

end Rulebook.Conflict
