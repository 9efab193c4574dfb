/-
**Maps and their entries.**

`Rulebook/SortedMap.lean` relates the operations on a map to looking up keys.  Whoever goes through
the entries of a map one by one needs the other direction as well: which entries there are, and
what is left of a pass over all of them that keeps nothing but the entry of one key.  And whoever
puts the items of a list under their keys, one after the other, wants to have them back: under each
key there are those items of the list that have it.

Main definitions:

* `Rulebook.SortedMap.Keeps` — a map has what a function gives, but for nothing;
* `Rulebook.SortedMap.Groups` — a map has the items of a list under their keys.

Main results:

* `Rulebook.SortedMap.mem_entries_iff` — the entries of a map are what is found under its keys;
* `Rulebook.SortedMap.flatMap_entries` — a pass over the entries that ignores every key but one
  sees what the map has under that key;
* `Rulebook.SortedMap.entries_eq_filterMap` — a map lists its entries along any increasing list that
  has all its keys;
* `Rulebook.SortedMap.Keeps.update` — what a map keeps when the value of one key is changed;
* `Rulebook.SortedMap.groups_grouped` — **each key has the items of a list that have this key**;
* `Rulebook.SortedMap.ofList_entries` — a map is built again from its entries;
* `Rulebook.SortedMap.get?_mapValues` — changing every value changes what is found under the keys;
* `Rulebook.SortedMap.get?_ofList_append`, `Rulebook.SortedMap.get?_ofList_eq_some_iff` — of several
  entries with one key the last one counts.
-/

import Rulebook.SortedMap

set_option autoImplicit false

namespace Rulebook.SortedMap

variable {κ α β : Type} [Ord κ] [Std.TransOrd κ] [Std.LawfulEqOrd κ]

/-! ### The entries of a map -/

/-- The entries of a map are what is found under its keys. -/
theorem mem_entries_iff (m : SortedMap κ α) (key : κ) (value : α) :
    (key, value) ∈ m.entries ↔ m.get? key = some value := by
  constructor
  · intro h
    exact find?_of_mem m.increasing h
  · intro h
    exact mem_of_find? h

/-- What lies before and after an entry has other keys. -/
theorem exists_split_of_get? {m : SortedMap κ α} {key : κ} {value : α}
    (h : m.get? key = some value) :
    ∃ before after, m.entries = before ++ (key, value) :: after ∧
      (∀ entry ∈ before, entry.1 ≠ key) ∧ ∀ entry ∈ after, entry.1 ≠ key := by
  obtain ⟨before, after, hsplit⟩ := List.append_of_mem ((m.mem_entries_iff key value).2 h)
  have hinc := m.increasing
  rw [hsplit, List.pairwise_append] at hinc
  obtain ⟨-, hafter, hbefore⟩ := hinc
  refine ⟨before, after, hsplit, ?_, ?_⟩
  · intro entry he heq
    have hlt := hbefore entry he (key, value) List.mem_cons_self
    rw [heq] at hlt
    simp at hlt
  · intro entry he heq
    have hlt := (List.pairwise_cons.1 hafter).1 entry he
    rw [heq] at hlt
    simp at hlt

/-- A pass over the entries that ignores every key but one sees what the map has under it. -/
theorem flatMap_entries (m : SortedMap κ α) (key : κ) (f : κ × α → List β)
    (h : ∀ entry ∈ m.entries, entry.1 ≠ key → f entry = []) :
    m.entries.flatMap f = (m.get? key).elim [] fun value => f (key, value) := by
  cases hget : m.get? key with
  | none =>
      refine List.flatMap_eq_nil_iff.2 fun entry he => h entry he fun heq => ?_
      have hsome := (m.mem_entries_iff entry.1 entry.2).1 he
      rw [heq, hget] at hsome
      exact nomatch hsome
  | some value =>
      obtain ⟨before, after, hsplit, hbefore, hafter⟩ := exists_split_of_get? hget
      rw [hsplit] at h ⊢
      have hb : before.flatMap f = [] :=
        List.flatMap_eq_nil_iff.2 fun entry he => h entry (by simp [he]) (hbefore entry he)
      have ha : after.flatMap f = [] :=
        List.flatMap_eq_nil_iff.2 fun entry he => h entry (by simp [he]) (hafter entry he)
      simp [hb, ha]

/-- A map lists its entries along any increasing list that has all its keys. -/
theorem entries_eq_filterMap {m : SortedMap κ α} {keys : List κ}
    (hkeys : keys.Pairwise fun a b => compare a b = .lt)
    (hall : ∀ key value, m.get? key = some value → key ∈ keys) :
    m.entries = keys.filterMap fun key => (m.get? key).map fun value => (key, value) := by
  have hincreasing : (keys.filterMap fun key => (m.get? key).map fun value => (key, value)).Pairwise
      fun a b => compare a.1 b.1 = .lt := by
    rw [List.pairwise_filterMap]
    refine hkeys.imp fun {a b} hlt first hfirst second hsecond => ?_
    obtain ⟨-, -, rfl⟩ := Option.map_eq_some_iff.1 hfirst
    obtain ⟨-, -, rfl⟩ := Option.map_eq_some_iff.1 hsecond
    exact hlt
  refine eq_of_find?_eq m.increasing hincreasing fun key => Option.ext fun value => ?_
  constructor
  · intro h
    refine find?_of_mem hincreasing (List.mem_filterMap.2 ⟨key, hall key value h, ?_⟩)
    rw [show m.get? key = some value from h, Option.map_some]
  · intro h
    obtain ⟨other, -, hother⟩ := List.mem_filterMap.1 (mem_of_find? h)
    obtain ⟨found, hfound, heq⟩ := Option.map_eq_some_iff.1 hother
    cases heq
    exact hfound

/-! ### Building a map again -/

omit [Std.TransOrd κ] [Std.LawfulEqOrd κ] in
/-- A key beyond all others goes to the end. -/
theorem insertEntry_of_gt {key : κ} {value : α} {entries : List (κ × α)}
    (h : ∀ entry ∈ entries, compare key entry.1 = .gt) :
    insertEntry key value entries = entries ++ [(key, value)] := by
  induction entries with
  | nil => rfl
  | cons first rest ih =>
      rw [insertEntry, h first List.mem_cons_self]
      simp only [List.cons_append, List.cons.injEq, true_and]
      exact ih fun entry he => h entry (List.mem_cons_of_mem _ he)

/-- Entries with increasing keys, all of them beyond those of a map, go to its end in order. -/
theorem entries_foldl_insert (m : SortedMap κ α) (new : List (κ × α))
    (h : (m.entries ++ new).Pairwise fun a b => compare a.1 b.1 = .lt) :
    (new.foldl (fun m entry => m.insert entry.1 entry.2) m).entries = m.entries ++ new := by
  induction new generalizing m with
  | nil => simp
  | cons first rest ih =>
      have hfirst : (m.insert first.1 first.2).entries = m.entries ++ [first] := by
        refine insertEntry_of_gt fun entry he => ?_
        have hlt := (List.pairwise_append.1 h).2.2 entry he first List.mem_cons_self
        exact Std.OrientedCmp.gt_of_lt hlt
      rw [List.foldl_cons, ih _ (by rw [hfirst]; simpa using h), hfirst]
      simp

omit [Std.TransOrd κ] [Std.LawfulEqOrd κ] in
/-- A map is determined by its entries. -/
theorem eq_of_entries_eq {m₁ m₂ : SortedMap κ α} (h : m₁.entries = m₂.entries) : m₁ = m₂ := by
  cases m₁
  cases m₂
  simpa using h

/-- A map is built again from its entries. -/
theorem ofList_entries (m : SortedMap κ α) : ofList m.entries = m := by
  refine eq_of_entries_eq ?_
  rw [ofList, entries_foldl_insert _ _ (by simpa [empty] using m.increasing)]
  rfl

omit [Std.TransOrd κ] [Std.LawfulEqOrd κ] in
/-- Only the empty map has no entries. -/
theorem isEmpty_iff (m : SortedMap κ α) : m.isEmpty = true ↔ m = empty := by
  rw [isEmpty, List.isEmpty_iff]
  constructor
  · intro h
    exact eq_of_entries_eq h
  · rintro rfl
    rfl

/-! ### Changing every value -/

omit [Std.TransOrd κ] [Std.LawfulEqOrd κ] in
/-- A map with each of its values changed. -/
def mapValues (f : α → β) (m : SortedMap κ α) : SortedMap κ β where
  entries := m.entries.map fun entry => (entry.1, f entry.2)
  increasing := m.increasing.map _ fun _ _ h => h

omit [Std.TransOrd κ] [Std.LawfulEqOrd κ] in
theorem values_mapValues (f : α → β) (m : SortedMap κ α) :
    (m.mapValues f).values = m.values.map f := by
  rw [values, mapValues, values, List.map_map, List.map_map]
  rfl

omit [Std.TransOrd κ] [Std.LawfulEqOrd κ] in
theorem get?_mapValues (f : α → β) (m : SortedMap κ α) (key : κ) :
    (m.mapValues f).get? key = (m.get? key).map f := by
  change find? key (m.entries.map fun entry => (entry.1, f entry.2)) = (find? key m.entries).map f
  induction m.entries with
  | nil => rfl
  | cons first rest ih =>
      rw [List.map_cons, find?, find?, ih]
      split <;> rfl

variable [DecidableEq κ]

/-! ### What a map keeps -/

/-- A map has under each key what a function gives for it, unless this is nothing. -/
def Keeps (m : SortedMap κ α) (nothing : α) (f : κ → α) : Prop :=
  ∀ key value, m.get? key = some value ↔ value = f key ∧ value ≠ nothing

section

variable {m : SortedMap κ α} {nothing : α} {f : κ → α}

omit [Std.TransOrd κ] [Std.LawfulEqOrd κ] [DecidableEq κ] in
theorem Keeps.getD_get? (h : m.Keeps nothing f) (key : κ) :
    (m.get? key).getD nothing = f key := by
  cases hget : m.get? key with
  | some value => exact ((h key value).1 hget).1
  | none =>
      -- If it were something, it would have been found.
      refine Classical.byContradiction fun hne => ?_
      have hfound := (h key _).2 ⟨rfl, Ne.symm hne⟩
      rw [hget] at hfound
      cases hfound

/-- A change that leaves something under a key is kept, and nothing else changes. -/
theorem Keeps.update (h : m.Keeps nothing f) (key : κ) {change : α → α}
    (hne : change (f key) ≠ nothing) :
    (m.update key nothing change).Keeps nothing
      fun k => if k = key then change (f key) else f k := by
  intro k value
  simp only [get?_update, h.getD_get?]
  by_cases hk : k = key
  · rw [if_pos hk, if_pos hk, Option.some_inj]
    constructor
    · rintro rfl
      exact ⟨rfl, hne⟩
    · rintro ⟨rfl, -⟩
      rfl
  · rw [if_neg hk, if_neg hk]
    exact h k value

end

/-! ### Items under their keys -/

/-- A map has under each key the items of a list that have this key, and no key without items. -/
def Groups (key : β → κ) (m : SortedMap κ (List β)) (items : List β) : Prop :=
  m.Keeps [] fun k => items.filter fun item => key item == k

section

variable {key : β → κ} {m : SortedMap κ (List β)} {seen : List β}

/-- One more item goes to those with its key. -/
theorem Groups.addTo (h : Groups key m seen) (item : β) :
    Groups key (addTo key m item) (seen ++ [item]) := by
  have hitems : (fun k => (seen ++ [item]).filter fun other => key other == k) = fun k =>
      if k = key item then (seen.filter fun other => key other == key item) ++ [item]
      else seen.filter fun other => key other == k := by
    funext k
    rw [List.filter_append]
    by_cases hk : k = key item
    · simp [hk]
    · simp [hk, Ne.symm hk]
  rw [Groups, hitems]
  exact Keeps.update h (key item) (List.append_ne_nil_of_right_ne_nil _ (List.cons_ne_nil _ _))

theorem Groups.foldl (h : Groups key m seen) (items : List β) :
    Groups key (items.foldl (SortedMap.addTo key) m) (seen ++ items) := by
  induction items generalizing m seen with
  | nil => simpa using h
  | cons item rest ih => simpa using ih (h.addTo item)

end

/-- **Each key has the items of a list that have this key.** -/
theorem groups_grouped (key : β → κ) (items : List β) : Groups key (grouped key items) items := by
  have hempty : Groups key (empty : SortedMap κ (List β)) [] := by
    intro k found
    simp
  exact hempty.foldl items

/-! ### The map of a list of entries -/

theorem get?_foldl_insert (m : SortedMap κ α) (entries : List (κ × α)) (key : κ) :
    (entries.foldl (fun m entry => m.insert entry.1 entry.2) m).get? key =
      ((ofList entries).get? key).or (m.get? key) := by
  induction entries generalizing m with
  | nil => rfl
  | cons entry rest ih =>
      have hcons : ofList (entry :: rest) =
          rest.foldl (fun m entry => m.insert entry.1 entry.2) (empty.insert entry.1 entry.2) := rfl
      rw [List.foldl_cons, ih, hcons, ih, get?_insert, get?_insert, get?_empty, Option.or_assoc]
      split <;> rfl

/-- What comes later counts. -/
theorem get?_ofList_append (first second : List (κ × α)) (key : κ) :
    (ofList (first ++ second)).get? key =
      ((ofList second).get? key).or ((ofList first).get? key) := by
  rw [ofList, List.foldl_append, get?_foldl_insert]
  rfl

theorem get?_ofList_cons (entry : κ × α) (rest : List (κ × α)) (key : κ) :
    (ofList (entry :: rest)).get? key =
      ((ofList rest).get? key).or (if key = entry.1 then some entry.2 else none) := by
  have hsingle : ofList [entry] = empty.insert entry.1 entry.2 := rfl
  rw [← List.singleton_append, get?_ofList_append, hsingle, get?_insert, get?_empty]

theorem get?_ofList_eq_none_iff {entries : List (κ × α)} {key : κ} :
    (ofList entries).get? key = none ↔ ∀ entry ∈ entries, entry.1 ≠ key := by
  induction entries with
  | nil => simp [ofList]
  | cons entry rest ih =>
      rw [get?_ofList_cons, Option.or_eq_none_iff, ih, List.forall_mem_cons]
      by_cases h : key = entry.1
      · simp [h]
      · simp [h, Ne.symm h]

/-- **Of several entries with one key the last one counts.** -/
theorem get?_ofList_eq_some_iff {entries : List (κ × α)} {key : κ} {value : α} :
    (ofList entries).get? key = some value ↔
      ∃ before after, entries = before ++ (key, value) :: after ∧
        ∀ entry ∈ after, entry.1 ≠ key := by
  constructor
  · intro h
    induction entries with
    | nil => cases h
    | cons entry rest ih =>
        rw [get?_ofList_cons] at h
        cases hrest : (ofList rest).get? key with
        | some found =>
            rw [hrest] at h
            cases h
            obtain ⟨before, after, rfl, hafter⟩ := ih hrest
            exact ⟨entry :: before, after, rfl, hafter⟩
        | none =>
            rw [hrest, Option.none_or] at h
            split at h
            · rename_i hkey
              cases h
              exact ⟨[], rest, by rw [hkey]; rfl, get?_ofList_eq_none_iff.1 hrest⟩
            · cases h
  · rintro ⟨before, after, rfl, hafter⟩
    rw [get?_ofList_append, get?_ofList_cons, get?_ofList_eq_none_iff.2 hafter]
    simp

end Rulebook.SortedMap
