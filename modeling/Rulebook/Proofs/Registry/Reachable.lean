/-
**The registries that can come about.**

A registry starts empty, and there are three ways to change it: a rule is inserted, a document that
gave no rule is noted, a rule is put in force or out of force.  Whatever is loaded, and in whatever
order, is a sequence of these.  One invariant carries over from each to the next: the index knows
every rule at its place and nothing else.  Hence no two rules of a registry have one id.

Main definitions:

* `Rulebook.Registry.Reachable` — the registries that can come about;
* `Rulebook.Registry.WellIndexed` — the invariant of the index.

Main results:

* `Rulebook.Registry.Reachable.wellIndexed` — the invariant holds of every registry;
* `Rulebook.Registry.Reachable.eq_of_id_eq` — two rules with one id are the same rule;
* `Rulebook.Registry.reachable_ofRules`, `Rulebook.Registry.Reachable.loadPattern?` — rules given
  one by one, and documents that are loaded, give registries of this kind.
-/

import Mathlib.Data.List.Nodup
import Rulebook.Registry.Load

set_option autoImplicit false

namespace Rulebook.Registry

/-- The registries that can come about. -/
inductive Reachable : Registry → Prop where
  | empty : Reachable empty
  | insert {registry extended : Registry} (rule : Rule) :
      Reachable registry → registry.insert rule = .ok extended → Reachable extended
  | addError {registry : Registry} (error : LoadError) :
      Reachable registry → Reachable (registry.addError error)
  | setEnabled {registry changed : Registry} (id : String) (enabled : Bool) :
      Reachable registry → registry.setEnabled? id enabled = some changed → Reachable changed

/-- The index knows every rule at its place, and nothing else. -/
def WellIndexed (registry : Registry) : Prop :=
  ∀ id i, registry.index.get? id = some i ↔ registry.ids[i]? = some id

/-! ### What one step does -/

/-- A rule that is taken goes to the end, and its id was free. -/
theorem insert_eq_ok {registry extended : Registry} {rule : Rule}
    (h : registry.insert rule = .ok extended) :
    registry.index.get? rule.id = none ∧ rule.category ≠ [] ∧
      extended = { registry with
        rules := registry.rules ++ [rule]
        index := registry.index.insert rule.id registry.rules.length } := by
  unfold insert at h
  split at h
  · cases h
  · rename_i hfree
    split at h
    · cases h
    · rename_i hcategory
      exact ⟨by simpa using hfree, by simpa using hcategory, (Except.ok.inj h).symm⟩

/-- The rule whose state is changed keeps its id. -/
theorem ids_setEnabled {registry changed : Registry} {id : String} {enabled : Bool}
    (h : registry.setEnabled? id enabled = some changed) :
    changed.ids = registry.ids ∧ changed.index = registry.index := by
  obtain ⟨i, -, rfl⟩ := Option.map_eq_some_iff.mp h
  refine ⟨List.ext_getElem? fun j => ?_, rfl⟩
  by_cases hij : i = j <;> simp [ids, hij, Function.comp_def]

theorem wellIndexed_empty : WellIndexed empty := by
  intro id i
  simp [empty, ids]

theorem WellIndexed.insert {registry extended : Registry} {rule : Rule}
    (hwell : WellIndexed registry) (h : registry.insert rule = .ok extended) :
    WellIndexed extended := by
  obtain ⟨hfree, -, rfl⟩ := insert_eq_ok h
  intro id i
  have hids : ids { registry with
      rules := registry.rules ++ [rule]
      index := registry.index.insert rule.id registry.rules.length } =
        registry.ids ++ [rule.id] := by
    simp [ids]
  have hlength : registry.ids.length = registry.rules.length := by simp [ids]
  rw [hids, SortedMap.get?_insert, ← hlength]
  by_cases hid : id = rule.id
  · -- The new id stands at the end only: it would have been found, had it stood before.
    subst hid
    have habsent : ∀ j : Nat, registry.ids[j]? ≠ some rule.id := by
      intro j hj
      rw [(hwell rule.id j).mpr hj] at hfree
      cases hfree
    rw [if_pos rfl, Option.some_inj, List.getElem?_append]
    split
    · rename_i hi
      constructor
      · intro hlast
        omega
      · intro hj
        exact absurd hj (habsent i)
    · rename_i hi
      rw [List.getElem?_singleton]
      split <;> simp <;> omega
  · rw [if_neg hid, hwell id i, List.getElem?_append]
    split
    · rfl
    · rename_i hi
      rw [List.getElem?_eq_none (by omega), List.getElem?_singleton]
      split <;> simp [Ne.symm hid]

/-- **The index knows every rule of a registry at its place, and nothing else.** -/
theorem Reachable.wellIndexed {registry : Registry} (h : Reachable registry) :
    WellIndexed registry := by
  induction h with
  | empty => exact wellIndexed_empty
  | insert rule _ hinsert ih => exact ih.insert hinsert
  | addError error _ ih => exact ih
  | setEnabled id enabled _ hset ih =>
      obtain ⟨hids, hindex⟩ := ids_setEnabled hset
      intro other i
      rw [hids, hindex]
      exact ih other i

theorem Reachable.nodup_ids {registry : Registry} (h : Reachable registry) :
    registry.ids.Nodup := by
  refine List.nodup_iff_getElem?_ne_getElem?.mpr fun i j hij hj heq => ?_
  have hlt : i < registry.ids.length := by omega
  have hi := List.getElem?_eq_getElem hlt
  -- One id has one place in the index, so the two places are the same.
  have hfirst := (h.wellIndexed _ i).mpr hi
  have hsecond := (h.wellIndexed _ j).mpr (heq ▸ hi)
  rw [hfirst] at hsecond
  exact absurd (Option.some.inj hsecond) (by omega)

/-- **Two rules of a registry with one id are the same rule.** -/
theorem Reachable.eq_of_id_eq {registry : Registry} (h : Reachable registry) {a b : Rule}
    (ha : a ∈ registry.rules) (hb : b ∈ registry.rules) (hid : a.id = b.id) : a = b :=
  List.inj_on_of_nodup_map h.nodup_ids ha hb hid

/-! ### What is given or loaded -/

theorem Reachable.offer {registry : Registry} (h : Reachable registry) (rule : Rule) :
    Reachable (registry.offer rule) := by
  unfold Registry.offer
  split
  · rename_i extended hinsert
    exact h.insert rule hinsert
  · exact h

theorem Reachable.foldl {α : Type} {step : Registry → α → Registry}
    (hstep : ∀ registry a, Reachable registry → Reachable (step registry a)) (l : List α)
    {registry : Registry} (h : Reachable registry) : Reachable (l.foldl step registry) := by
  induction l generalizing registry with
  | nil => exact h
  | cons a l ih => exact ih (hstep registry a h)

/-- The registry of any list of rules can come about. -/
theorem reachable_ofRules (rules : List Rule) : Reachable (ofRules rules) :=
  Reachable.empty.foldl (fun _ rule h => h.offer rule) rules

theorem Reachable.loadDocument {registry : Registry} (h : Reachable registry) (tree : FileTree)
    (path : String) : Reachable (registry.loadDocument tree path) := by
  unfold Registry.loadDocument
  split
  · split
    · exact h.addError _
    · split
      · rename_i extended hinsert
        cases hparse : Document.parse _ with
        | error e =>
            rw [insertDocument, hparse] at hinsert
            cases hinsert
        | ok rule =>
            rw [insertDocument, hparse] at hinsert
            exact h.insert _ hinsert
      · exact h.addError _
  · exact h

theorem Reachable.loadDirectory {registry : Registry} (h : Reachable registry) (tree : FileTree)
    (directory : String) : Reachable (registry.loadDirectory tree directory) := by
  unfold Registry.loadDirectory
  split
  · exact h.foldl (fun _ path hpath => hpath.loadDocument tree path) _
  · exact h

theorem Reachable.loadPath {registry : Registry} (h : Reachable registry) (tree : FileTree)
    (path : String) : Reachable (registry.loadPath tree path) := by
  unfold Registry.loadPath
  split
  · exact h.loadDirectory tree path
  · exact h.loadDocument tree path

/-- Loading the documents that fit a pattern takes a registry to one that can come about. -/
theorem Reachable.loadPattern? {registry extended : Registry} (h : Reachable registry)
    (tree : FileTree) {pattern : String}
    (hload : registry.loadPattern? tree pattern = some extended) : Reachable extended := by
  obtain ⟨p, -, rfl⟩ := Option.map_eq_some_iff.mp hload
  exact h.foldl (fun _ path hpath => hpath.loadPath tree path) _

end Rulebook.Registry
