/-
**Sorting that keeps the order of equals.**

A list is sorted by the keys of its items, and items with one key stay in the order in which they
stood.  So a sorted list is known as soon as it is known for each key, and sorting a list that is
known for each key gives it.

Main results:

* `Rulebook.filter_mergeSort` — what is in order already stays as it is;
* `Rulebook.eq_of_filter_key_eq` — a sorted list is known from what it has for each key;
* `Rulebook.eq_mergeSort_of_filter_key_eq` — **which list sorting gives**.
-/

import Mathlib.Data.List.Basic

set_option autoImplicit false

namespace Rulebook

variable {α κ : Type} {le : α → α → Bool} {l m : List α}

/-- What is in order before a list is sorted is found unchanged in the sorted list. -/
theorem filter_mergeSort (htrans : ∀ a b c, le a b = true → le b c = true → le a c = true)
    (htotal : ∀ a b, (le a b || le b a) = true) (p : α → Bool) (l : List α)
    (h : (l.filter p).Pairwise fun a b => le a b = true) :
    (l.mergeSort le).filter p = l.filter p := by
  have hsub : (l.filter p).Sublist (l.mergeSort le) :=
    List.sublist_mergeSort htrans htotal h List.filter_sublist
  have hfilter : (l.filter p).Sublist ((l.mergeSort le).filter p) := by
    have hkeep := hsub.filter p
    rw [List.filter_filter] at hkeep
    simpa only [Bool.and_self] using hkeep
  have hlength : (l.filter p).length = ((l.mergeSort le).filter p).length :=
    ((List.mergeSort_perm l le).filter p).length_eq.symm
  exact (hfilter.eq_of_length hlength).symm

variable [DecidableEq κ] {key : α → κ}

/-- Two lists that have the same for each key have the same items. -/
theorem mem_iff_of_filter_key_eq
    (h : ∀ k, (l.filter fun a => key a == k) = m.filter fun a => key a == k) (a : α) :
    a ∈ l ↔ a ∈ m := by
  have hmem (n : List α) : a ∈ n ↔ a ∈ n.filter fun b => key b == key a := by
    simp [List.mem_filter]
  rw [hmem l, h, ← hmem m]

/-- A list in the order of its keys is known if it is known for each key. -/
theorem eq_of_filter_key_eq (hantisymm : ∀ a b, le a b = true → le b a = true → key a = key b)
    (hl : l.Pairwise fun a b => le a b = true) (hm : m.Pairwise fun a b => le a b = true)
    (h : ∀ k, (l.filter fun a => key a == k) = m.filter fun a => key a == k) : l = m := by
  have hsame := mem_iff_of_filter_key_eq h
  induction l generalizing m with
  | nil =>
      cases m with
      | nil => rfl
      | cons b m =>
          have hb := (hsame b).mpr List.mem_cons_self
          cases hb
  | cons a l ih =>
      cases m with
      | nil =>
          have ha := (hsame a).mp List.mem_cons_self
          cases ha
      | cons b m =>
          rw [List.pairwise_cons] at hl hm
          -- Neither head comes before the other.
          have hkey : key b = key a := by
            rcases List.mem_cons.mp ((hsame b).mpr List.mem_cons_self) with heq | hb
            · rw [heq]
            · rcases List.mem_cons.mp ((hsame a).mp List.mem_cons_self) with heq | ha
              · rw [heq]
              · exact hantisymm b a (hm.1 a ha) (hl.1 b hb)
          have hhead := h (key a)
          rw [List.filter_cons_of_pos (by simp), List.filter_cons_of_pos (by simp [hkey]),
            List.cons.injEq] at hhead
          obtain ⟨rfl, htail⟩ := hhead
          have hrest : ∀ k, (l.filter fun c => key c == k) = m.filter fun c => key c == k := by
            intro k
            by_cases hk : key a = k
            · rw [← hk]
              exact htail
            · have hkeys := h k
              rwa [List.filter_cons_of_neg (by simpa using hk),
                List.filter_cons_of_neg (by simpa using hk)] at hkeys
          rw [ih hl.2 hm.2 hrest (mem_iff_of_filter_key_eq hrest)]

/-- **Which list sorting gives**: the one in order that has the same items for each key, in the same
order. -/
theorem eq_mergeSort_of_filter_key_eq
    (htrans : ∀ a b c, le a b = true → le b c = true → le a c = true)
    (htotal : ∀ a b, (le a b || le b a) = true)
    (hantisymm : ∀ a b, le a b = true → le b a = true → key a = key b)
    (hequal : ∀ a b, key a = key b → le a b = true)
    (hl : l.Pairwise fun a b => le a b = true)
    (h : ∀ k, (l.filter fun a => key a == k) = m.filter fun a => key a == k) :
    l = m.mergeSort le := by
  refine eq_of_filter_key_eq hantisymm hl (List.pairwise_mergeSort htrans htotal m) fun k => ?_
  rw [h k, filter_mergeSort htrans htotal]
  refine List.pairwise_of_forall_mem_list fun a ha b hb => hequal a b ?_
  have hak : key a = k := by simpa using (List.mem_filter.mp ha).2
  have hbk : key b = k := by simpa using (List.mem_filter.mp hb).2
  rw [hak, hbk]

end Rulebook
