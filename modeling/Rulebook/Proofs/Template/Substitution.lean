/-
**The pass that replaces variables.**

The pass goes through a text once.  Where there is no brace the text stays as it is; at the text of
a variable the masked value is put in; and a value that has been masked is passed over.

Main results:

* `Rulebook.Template.substitute_append_of_not_mem`,
  `Rulebook.Template.substitute_variableSource` — the two kinds of step of the pass;
* `Rulebook.Template.unmask_eq_self_iff` — the texts that unmasking leaves as they are.
-/

import Rulebook.Proofs.Template.Reading

set_option autoImplicit false

namespace Rulebook.Template

/-! ### Replacing variables -/

theorem flatMap_substitutePiece_plain (context : Json) (s : List Char) :
    (s.map Text.Piece.plain).flatMap (substitutePiece context) = s := by
  simp [List.flatMap_map, substitutePiece, List.flatMap_singleton']

theorem substitute_append_of_not_mem (context : Json) {s : List Char} (t : List Char)
    (hs : '{' ∉ s) : substitute context (s ++ t) = s ++ substitute context t := by
  rw [substitute, Text.pieces_append_of_not_mem beginsAtBrace_variable t hs, List.flatMap_append,
    flatMap_substitutePiece_plain]
  rfl

theorem substitute_variableSource (context : Json) {path : List Char} (t : List Char)
    (h : IsPath path) :
    substitute context (variableSource path ++ t) =
      mask (displayOption (lookUp context path)) ++ substitute context t := by
  rw [substitute, Text.pieces_token (variableSource_ne_nil path)
    (Variable.read?_variableSource t h)]
  rfl

@[simp] theorem substitute_nil (context : Json) : substitute context [] = [] := by
  simp [substitute, Text.pieces]

theorem mask_cons_of_ne {c : Char} (h : c ≠ '{') (s : List Char) :
    mask (c :: s) = c :: mask s := by
  simp [mask, h]

theorem mask_flatMap {α : Type} (l : List α) (f : α → List Char) :
    mask (l.flatMap f) = l.flatMap fun a => mask (f a) := by
  simp [mask, List.map_flatMap]

theorem substitute_cons_of_none (context : Json) {c : Char} {rest : List Char}
    (h : Variable.read? (c :: rest) = none) :
    substitute context (c :: rest) = c :: substitute context rest := by
  rw [substitute, Text.pieces_cons_of_none h]
  rfl

/-! ### Stand-ins -/

theorem standIn_not_ascii : 128 ≤ standIn.toNat := by decide

theorem unmask_of_not_mem {s : List Char} (h : standIn ∉ s) : unmask s = s := by
  have hid : ∀ c ∈ s, (if c = standIn then '{' else c) = c := by
    intro c hc
    rw [if_neg]
    rintro rfl
    exact h hc
  rw [unmask, List.map_congr_left hid, List.map_id']

theorem standIn_not_mem_unmask (s : List Char) : standIn ∉ unmask s := by
  intro hmem
  obtain ⟨c, -, hc⟩ := List.mem_map.mp hmem
  split at hc
  · exact absurd hc (by decide)
  · contradiction

/-- Unmasking leaves a text as it is exactly if it has no stand-in. -/
theorem unmask_eq_self_iff {s : List Char} : unmask s = s ↔ standIn ∉ s := by
  refine ⟨fun h => ?_, unmask_of_not_mem⟩
  rw [← h]
  exact standIn_not_mem_unmask s

/-- Masked or not, a text is unmasked to the same. -/
theorem unmask_mask_eq (s : List Char) : unmask (mask s) = unmask s := by
  rw [mask, unmask, unmask, List.map_map]
  refine List.map_congr_left fun c _ => ?_
  by_cases hc : c = '{'
  · subst hc
    decide
  · simp [hc]

theorem not_mem_trim {c : Char} {s : List Char} (h : c ∉ s) : c ∉ Text.trim s := by
  intro hmem
  rw [Text.trim, Text.trimEnd, Text.dropEndWhile, List.mem_reverse] at hmem
  have hstart := List.mem_reverse.mp ((List.dropWhile_sublist _).subset hmem)
  exact h ((List.dropWhile_sublist _).subset hstart)

end Rulebook.Template
