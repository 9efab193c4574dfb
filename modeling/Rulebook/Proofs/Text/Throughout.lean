/-
**What holds throughout a text.**

A property of what comes from a place of a text on may depend on text that is added behind.  It
holds throughout a text if it holds at each of its places whatever is added.  Then it also holds
throughout a text that is put together from such texts, in whatever order they come.

Main definitions:

* `Rulebook.Text.Throughout` — a property holds at every place, whatever follows the text.

Main results:

* `Rulebook.Text.throughout_append`, `Rulebook.Text.throughout_flatMap` — texts put together;
* `Rulebook.Text.Throughout.of_suffix` — what holds throughout a text holds of its suffixes.
-/

set_option autoImplicit false

namespace Rulebook.Text

variable {q r : List Char → Prop}

/-- At every place of a text `q` holds of what comes from there on, whatever follows the text. -/
def Throughout (q : List Char → Prop) : List Char → Prop
  | [] => True
  | c :: rest => (∀ t, q (c :: (rest ++ t))) ∧ Throughout q rest

theorem Throughout.imp {s : List Char} (h : Throughout q s) (hqr : ∀ s, q s → r s) :
    Throughout r s := by
  induction s with
  | nil => trivial
  | cons c rest ih => exact ⟨fun t => hqr _ (h.1 t), ih h.2⟩

theorem throughout_append {a b : List Char} (ha : Throughout q a) (hb : Throughout q b) :
    Throughout q (a ++ b) := by
  induction a with
  | nil => exact hb
  | cons c rest ih =>
      refine ⟨fun t => ?_, ih ha.2⟩
      have hq := ha.1 (b ++ t)
      rwa [← List.append_assoc] at hq

theorem throughout_flatMap {α : Type} {l : List α} {f : α → List Char}
    (h : ∀ a ∈ l, Throughout q (f a)) : Throughout q (l.flatMap f) := by
  induction l with
  | nil => trivial
  | cons a l ih =>
      obtain ⟨ha, hl⟩ := List.forall_mem_cons.mp h
      exact throughout_append ha (ih hl)

/-- A property that is decided by the first character. -/
theorem throughout_of_forall {s : List Char} (h : ∀ c ∈ s, ∀ t, q (c :: t)) : Throughout q s := by
  induction s with
  | nil => trivial
  | cons c rest ih =>
      obtain ⟨hc, hrest⟩ := List.forall_mem_cons.mp h
      exact ⟨fun t => hc (rest ++ t), ih hrest⟩

/-- What holds throughout a text holds of its suffixes. -/
theorem Throughout.of_suffix {s : List Char} (h : Throughout q s) {c : Char} {rest : List Char}
    (hsuffix : c :: rest <:+ s) : q (c :: rest) := by
  induction s with
  | nil => simp at hsuffix
  | cons d s ih =>
      rcases List.suffix_cons_iff.mp hsuffix with heq | hsuffix
      · have hq := h.1 []
        rw [List.append_nil, ← heq] at hq
        exact hq
      · exact ih h.2 hsuffix

end Rulebook.Text
