/-
**What requests do to a registry.**

However a registry came about, its index and its rules fit together: the index has an id at a place
exactly if the rule at this place has the id.  So no place in the index is beyond the rules, every
rule is found under its id, and no id occurs twice.  And every request does what is laid down for
it: rules and errors that came first stay first, a request that is refused changes nothing, and
putting a rule in force or out of force changes nothing but its state.

Main definitions:

* `Rulebook.Registry.Sound` — the invariant of registries;
* `Rulebook.Registry.Effect` — what a request may do, and how it is then answered.

Main results:

* `Rulebook.Registry.Reachable.sound` — the invariant holds of every registry that can come about;
* `Rulebook.Registry.Reachable.effect_step` — every request has its effect;
* `Rulebook.Registry.run_sound` — **so it is after any requests**.
-/

import Rulebook.Proofs.Registry.Loading

set_option autoImplicit false

namespace Rulebook.Registry

/-! ### The invariant -/

/-- The invariant of registries. -/
structure Sound (registry : Registry) : Prop where
  /-- No two rules have one id. -/
  distinct : registry.ids.Nodup
  /-- Every rule has a category. -/
  tagged : ∀ rule ∈ registry.rules, rule.category ≠ []
  /-- The index has an id at a place exactly if the rule at this place has the id. -/
  indexed : ∀ id i, registry.index.get? id = some i ↔
    ∃ rule, registry.rules[i]? = some rule ∧ rule.id = id
  /-- No place in the index is beyond the rules. -/
  within : ∀ id i, registry.index.get? id = some i → i < registry.rules.length
  /-- A rule is found under its id, and nothing else is. -/
  found : ∀ id rule, registry.get? id = some rule ↔ rule ∈ registry.rules ∧ rule.id = id

theorem getElem?_ids (registry : Registry) (id : String) (i : Nat) :
    registry.ids[i]? = some id ↔ ∃ rule, registry.rules[i]? = some rule ∧ rule.id = id := by
  simp [ids, List.getElem?_map, Option.map_eq_some_iff]

/-- A rule that has a category when it is inserted keeps its category. -/
theorem Reachable.category_ne_nil {registry : Registry} (h : Reachable registry) :
    ∀ rule ∈ registry.rules, rule.category ≠ [] := by
  induction h with
  | empty => simp [Registry.empty]
  | insert rule _ hinsert ih =>
      obtain ⟨-, hcategory, rfl⟩ := insert_eq_ok hinsert
      intro other hother
      rcases List.mem_append.mp hother with hold | hnew
      · exact ih other hold
      · rw [List.mem_singleton.mp hnew]
        exact hcategory
  | addError error _ ih => exact ih
  | setEnabled id enabled _ hset ih =>
      obtain ⟨i, -, rfl⟩ := Option.map_eq_some_iff.mp hset
      intro other hother
      obtain ⟨j, hj⟩ := List.mem_iff_getElem?.mp hother
      rw [List.getElem?_modify] at hj
      obtain ⟨rule, hrule, rfl⟩ := Option.map_eq_some_iff.mp hj
      have hcategory := ih rule (List.mem_of_getElem? hrule)
      split <;> exact hcategory

/-- **The invariant holds of every registry that can come about.** -/
theorem Reachable.sound {registry : Registry} (h : Reachable registry) : Sound registry where
  distinct := h.nodup_ids
  tagged := h.category_ne_nil
  indexed id i := (h.wellIndexed id i).trans (registry.getElem?_ids id i)
  within id i hi := by
    have hlt := (List.getElem?_eq_some_iff.mp ((h.wellIndexed id i).mp hi)).1
    simpa [ids] using hlt
  found id rule := by
    rw [get?, Option.bind_eq_some_iff]
    constructor
    · rintro ⟨i, hi, hrule⟩
      obtain ⟨found, hfound, hid⟩ := (registry.getElem?_ids id i).mp ((h.wellIndexed id i).mp hi)
      have heq : found = rule := Option.some.inj (hfound.symm.trans hrule)
      exact ⟨List.mem_of_getElem? hrule, heq ▸ hid⟩
    · rintro ⟨hmem, hid⟩
      obtain ⟨i, hrule⟩ := List.mem_iff_getElem?.mp hmem
      exact ⟨i, (h.wellIndexed id i).mpr ((registry.getElem?_ids id i).mpr ⟨rule, hrule, hid⟩),
        hrule⟩

/-! ### The effect of a request -/

/-- What a request may do to a registry, and how it is then answered. -/
inductive Effect (before : Registry) : Request → Registry → Response → Prop where
  /-- A rule with a free id and a category goes to the end. -/
  | inserted {rule : Rule} {after : Registry} :
      rule.id ∉ before.ids → rule.category ≠ [] →
      after.rules = before.rules ++ [rule] → after.errors = before.errors →
      Effect before (.insert rule) after .done
  /-- An id that is taken stays with the rule that has it. -/
  | duplicate {rule : Rule} :
      rule.id ∈ before.ids →
      Effect before (.insert rule) before (.refused (.duplicateId rule.id))
  /-- A rule without categories is not taken. -/
  | untagged {rule : Rule} :
      rule.id ∉ before.ids → rule.category = [] →
      Effect before (.insert rule) before (.refused .emptyCategory)
  /-- Rules are gathered in order, and of every id that comes with a category there is one. -/
  | gathered {rules : List Rule} {after : Registry} :
      after.rules.Sublist rules → after.errors = [] →
      (∀ rule ∈ rules, rule.category ≠ [] → rule.id ∈ after.ids) →
      Effect before (.gather rules) after .done
  /-- The documents below a directory add rules and errors at the end. -/
  | loadedDirectory {tree : FileTree} {directory : String} {after : Registry} {count : Nat} :
      Appends before after → after.rules.length = before.rules.length + count →
      Effect before (.loadDirectory tree directory) after (.loaded count)
  /-- So do the documents that fit a pattern. -/
  | loadedPattern {tree : FileTree} {pattern : String} {after : Registry} {count : Nat} :
      (Pattern.parse? pattern).isSome = true →
      Appends before after → after.rules.length = before.rules.length + count →
      Effect before (.loadPattern tree pattern) after (.loaded count)
  /-- A pattern that cannot be read adds nothing. -/
  | badPattern {tree : FileTree} {pattern : String} :
      Pattern.parse? pattern = none →
      Effect before (.loadPattern tree pattern) before (.badPattern (patternWording pattern))
  /-- The state of the rule with an id changes, and nothing else does. -/
  | switched {id : String} {enabled : Bool} {after : Registry} :
      id ∈ before.ids →
      after.rules = before.rules.map
        (fun rule => if rule.id = id then { rule with enabled := enabled } else rule) →
      after.index = before.index → after.errors = before.errors →
      Effect before (.setEnabled id enabled) after (.known true)
  /-- An id that no rule has changes nothing. -/
  | unknown {id : String} {enabled : Bool} :
      id ∉ before.ids →
      Effect before (.setEnabled id enabled) before (.known false)

/-! ### Every request has its effect -/

theorem effect_insert {registry : Registry} (h : Reachable registry) (rule : Rule) :
    Effect registry (.insert rule) (registry.step (.insert rule)).1
      (registry.step (.insert rule)).2 := by
  by_cases hid : rule.id ∈ registry.ids
  · simpa [step, insert_of_mem_ids h.wellIndexed hid] using Effect.duplicate hid
  · by_cases hcategory : rule.category = []
    · simpa [step, insert_of_category_eq_nil h.wellIndexed hid hcategory] using
        Effect.untagged hid hcategory
    · rw [step, insert_of_not_mem_ids h.wellIndexed hid hcategory]
      exact Effect.inserted hid hcategory rfl rfl

/-- What is left of some rules when they are offered to a registry one by one. -/
theorem foldl_offer {registry : Registry} (h : Reachable registry) (rules : List Rule) :
    ∃ added, (rules.foldl offer registry).rules = registry.rules ++ added ∧ added.Sublist rules ∧
      (rules.foldl offer registry).errors = registry.errors ∧
      ∀ rule ∈ rules, rule.category ≠ [] → rule.id ∈ (rules.foldl offer registry).ids := by
  induction rules generalizing registry with
  | nil => exact ⟨[], by simp⟩
  | cons rule rules ih =>
      obtain ⟨added, hrules, hsublist, herrors, hids⟩ := ih (h.offer rule)
      rw [List.foldl_cons]
      -- The rule itself is there afterwards if it has a category: it was taken, or its id was.
      have hkept : rule.category ≠ [] → rule.id ∈ (registry.offer rule).ids := by
        intro hcategory
        by_cases hid : rule.id ∈ registry.ids
        · rwa [offer, insert_of_mem_ids h.wellIndexed hid]
        · rw [offer, insert_of_not_mem_ids h.wellIndexed hid hcategory]
          simp [ids]
      have hall : ∀ other ∈ rule :: rules, other.category ≠ [] →
          other.id ∈ (rules.foldl offer (registry.offer rule)).ids := by
        refine List.forall_mem_cons.mpr ⟨fun hcategory => ?_, hids⟩
        have hmem := hkept hcategory
        rw [ids] at hmem ⊢
        rw [hrules, List.map_append]
        exact List.mem_append_left _ hmem
      cases hinsert : registry.insert rule with
      | error cause =>
          have hoffer : registry.offer rule = registry := by rw [offer, hinsert]
          rw [hoffer] at hrules herrors hall ⊢
          exact ⟨added, hrules, hsublist.cons rule, herrors, hall⟩
      | ok extended =>
          have hoffer : registry.offer rule = extended := by rw [offer, hinsert]
          obtain ⟨-, -, rfl⟩ := insert_eq_ok hinsert
          rw [hoffer] at hrules herrors hall ⊢
          refine ⟨rule :: added, ?_, hsublist.cons_cons rule, herrors, hall⟩
          rw [hrules, List.append_assoc, List.singleton_append]

theorem effect_gather (registry : Registry) (rules : List Rule) :
    Effect registry (.gather rules) (registry.step (.gather rules)).1
      (registry.step (.gather rules)).2 := by
  obtain ⟨added, hrules, hsublist, herrors, hids⟩ := foldl_offer Reachable.empty rules
  refine Effect.gathered ?_ herrors hids
  rw [step, ofRules, hrules]
  simpa [Registry.empty] using hsublist

theorem effect_loadDirectory (registry : Registry) (tree : FileTree) (directory : String) :
    Effect registry (.loadDirectory tree directory)
      (registry.step (.loadDirectory tree directory)).1
      (registry.step (.loadDirectory tree directory)).2 := by
  refine Effect.loadedDirectory ?_ (counted_countDirectory tree registry directory)
  rw [step, fst_countDirectory]
  exact appends_loadDirectory tree registry directory

theorem effect_loadPattern (registry : Registry) (tree : FileTree) (pattern : String) :
    Effect registry (.loadPattern tree pattern)
      (registry.step (.loadPattern tree pattern)).1
      (registry.step (.loadPattern tree pattern)).2 := by
  rw [step]
  cases hcount : countPattern? tree registry pattern with
  | none => exact Effect.badPattern (Option.map_eq_none_iff.mp hcount)
  | some loaded =>
      obtain ⟨p, hp, -⟩ := Option.map_eq_some_iff.mp hcount
      exact Effect.loadedPattern (by rw [hp]; rfl)
        (appends_loadPattern? (loadPattern?_of_countPattern? hcount)) (counted_countPattern? hcount)

/-- Where the index has an id, the rule there is the only one with this id. -/
theorem modify_rules {registry : Registry} (h : Reachable registry) {id : String} {i : Nat}
    (hi : registry.index.get? id = some i) (f : Rule → Rule) :
    registry.rules.modify i f =
      registry.rules.map fun rule => if rule.id = id then f rule else rule := by
  refine List.ext_getElem? fun j => ?_
  rw [List.getElem?_modify, List.getElem?_map]
  cases hj : registry.rules[j]? with
  | none => rfl
  | some rule =>
      have hplace : rule.id = id ↔ i = j := by
        constructor
        · intro hid
          have hother := (h.wellIndexed id j).mpr ((registry.getElem?_ids id j).mpr ⟨rule, hj, hid⟩)
          exact Option.some.inj (hi.symm.trans hother)
        · rintro rfl
          obtain ⟨found, hfound, hid⟩ := (h.sound.indexed id i).mp hi
          rw [hfound] at hj
          rwa [← Option.some.inj hj]
      simp only [Option.map_eq_map, Option.map_some, hplace]

theorem effect_setEnabled {registry : Registry} (h : Reachable registry) (id : String)
    (enabled : Bool) :
    Effect registry (.setEnabled id enabled) (registry.step (.setEnabled id enabled)).1
      (registry.step (.setEnabled id enabled)).2 := by
  have hknown := h.wellIndexed.isSome_get?_iff id
  rw [step, setEnabled?]
  cases hi : registry.index.get? id with
  | none =>
      rw [hi] at hknown
      exact Effect.unknown (fun hmem => by simpa using hknown.mpr hmem)
  | some i =>
      rw [hi] at hknown
      exact Effect.switched (hknown.mp rfl) (modify_rules h hi _) rfl rfl

/-- **Every request has its effect.** -/
theorem Reachable.effect_step {registry : Registry} (h : Reachable registry) (request : Request) :
    Effect registry request (registry.step request).1 (registry.step request).2 := by
  cases request with
  | insert rule => exact effect_insert h rule
  | gather rules => exact effect_gather registry rules
  | loadDirectory tree directory => exact effect_loadDirectory registry tree directory
  | loadPattern tree pattern => exact effect_loadPattern registry tree pattern
  | setEnabled id enabled => exact effect_setEnabled h id enabled

/-! ### After any requests -/

theorem Reachable.step {registry : Registry} (h : Reachable registry) (request : Request) :
    Reachable (registry.step request).1 := by
  cases request with
  | insert rule =>
      rw [Registry.step]
      split
      · rename_i hinsert
        exact h.insert rule hinsert
      · exact h
  | gather rules => exact reachable_ofRules rules
  | loadDirectory tree directory =>
      rw [Registry.step, fst_countDirectory]
      exact h.loadDirectory tree directory
  | loadPattern tree pattern =>
      rw [Registry.step]
      split
      · rename_i loaded hcount
        exact h.loadPattern? tree (loadPattern?_of_countPattern? hcount)
      · exact h
  | setEnabled id enabled =>
      rw [Registry.step]
      split
      · rename_i hset
        exact h.setEnabled id enabled hset
      · exact h

theorem reachable_run (requests : List Request) : Reachable (run requests) :=
  Reachable.empty.foldl (fun _ request h => h.step request) requests

/-- **After any requests the registry is sound, and the next request has its effect.** -/
theorem run_sound (requests : List Request) :
    Sound (run requests) ∧ ∀ request,
      Effect (run requests) request ((run requests).step request).1
        ((run requests).step request).2 :=
  ⟨(reachable_run requests).sound, (reachable_run requests).effect_step⟩

end Rulebook.Registry
