/-
**The examples of a document.**

The sections are gone through once, and the examples of each go to the good ones or to the bad ones.
In the end those of a verdict are the examples of the sections that announce it, in order.  So it is
of no matter to the good examples where the bad ones stand, and every example comes from a fenced
block in one of the sections.

Main definitions:

* `Rulebook.Document.examplesWith` — the examples of the sections with a verdict.

Main results:

* `Rulebook.Document.foldl_addExamples`, `Rulebook.Document.examples_eq` — **what a pass over the
  sections gives**;
* `Rulebook.Document.exists_fence_of_mem_examplesWith` — every example comes from a fenced block.
-/

import Rulebook.Document.Parse

set_option autoImplicit false

namespace Rulebook.Document

/-- The examples of the sections of the third level with a verdict. -/
def examplesWith (verdict : Verdict) (ss : List Section) : List Example :=
  (ss.filter fun s => s.level == 3 && verdict? s.heading == some verdict).flatMap sectionExamples

theorem examplesWith_append (verdict : Verdict) (a b : List Section) :
    examplesWith verdict (a ++ b) = examplesWith verdict a ++ examplesWith verdict b := by
  rw [examplesWith, List.filter_append, List.flatMap_append]
  rfl

theorem examplesWith_cons (verdict : Verdict) (s : Section) (ss : List Section) :
    examplesWith verdict (s :: ss) =
      (if s.level == 3 && verdict? s.heading == some verdict then sectionExamples s else []) ++
        examplesWith verdict ss := by
  rw [examplesWith, List.filter_cons]
  split <;> rfl

/-! ### One pass over the sections -/

/-- A section of the third level adds its examples to those with its verdict. -/
theorem addExamples_eq {s : Section} (h : s.level = 3) (found : Examples) :
    addExamples found s =
      ⟨found.good ++ examplesWith .good [s], found.bad ++ examplesWith .bad [s]⟩ := by
  rw [addExamples, examplesWith_cons, examplesWith_cons, h]
  cases verdict? s.heading with
  | none => simp [examplesWith]
  | some verdict => cases verdict <;> simp [examplesWith]

/-- **A pass over the sections** adds the examples of each verdict to those found before. -/
theorem foldl_addExamples (found : Examples) (ss : List Section) :
    (ss.filter fun s => s.level == 3).foldl addExamples found =
      ⟨found.good ++ examplesWith .good ss, found.bad ++ examplesWith .bad ss⟩ := by
  induction ss generalizing found with
  | nil => simp [examplesWith]
  | cons s ss ih =>
      rw [← List.singleton_append, List.filter_append, List.foldl_append, ih, examplesWith_append,
        examplesWith_append]
      by_cases h : s.level = 3
      · simp [h, addExamples_eq h]
      · simp [h, examplesWith]

theorem examples_eq (ss : List Section) :
    examples ss = ⟨examplesWith .good ss, examplesWith .bad ss⟩ :=
  foldl_addExamples .none ss

/-! ### Where examples come from -/

/-- **Every example comes from a fenced block** of a section. -/
theorem exists_fence_of_mem_examplesWith {verdict : Verdict} {ss : List Section} {e : Example}
    (h : e ∈ examplesWith verdict ss) :
    ∃ s ∈ ss, ∃ f ∈ fences s.body, e.code = String.ofList f.code := by
  obtain ⟨s, hs, he⟩ := List.mem_flatMap.mp h
  obtain ⟨f, hf, rfl⟩ := List.mem_map.mp he
  exact ⟨s, (List.mem_filter.mp hs).1, f, hf, rfl⟩

end Rulebook.Document
