/-
**Segments and what they were joined from.**

A text that was joined from parts with a separator between them has these parts as its segments, as
long as no part holds the separator.

Main results:

* `Rulebook.Text.segments_eq_splitOn` — the segments of a text are those that the library gives;
* `Rulebook.Text.not_mem_of_mem_segments` — no segment holds the separator;
* `Rulebook.Text.segments_intercalate` — **the segments of joined parts are the parts**;
* `Rulebook.Text.segments_append_cons` — a separator ends a segment;
* `Rulebook.Text.lastSegment_mem_segments` — what follows the last separator is a segment;
* `Rulebook.Text.mem_of_mem_segments`, `Rulebook.Text.eq_or_exists_of_mem` — the characters of the
  segments are those of the text, but for the separator.
-/

import Rulebook.Text.Search

set_option autoImplicit false

namespace Rulebook.Text

theorem segments_eq_splitOn (sep : Char) (s : List Char) : segments sep s = s.splitOn sep := by
  induction s with
  | nil => rfl
  | cons c rest ih =>
      rw [segments, List.splitOn_cons_eq_if_modifyHead, ← ih]
      by_cases hc : c = sep
      · simp [hc]
      · -- The first segment goes on with this character; there is one, even of nothing.
        cases hsegments : segments sep rest with
        | nil => exact absurd hsegments (segments_ne_nil sep rest)
        | cons first more => simp [hc]

/-- No segment holds the separator. -/
theorem not_mem_of_mem_segments {sep : Char} {s part : List Char}
    (h : part ∈ segments sep s) : sep ∉ part := by
  induction s generalizing part with
  | nil => simp_all [segments]
  | cons c rest ih =>
      rw [segments] at h
      split at h
      · rcases List.mem_cons.mp h with rfl | hrest
        · exact List.not_mem_nil
        · exact ih hrest
      · rename_i hc
        split at h
        · rename_i hnil
          exact absurd hnil (segments_ne_nil sep rest)
        · rename_i first more hsegments
          rw [hsegments] at ih
          rcases List.mem_cons.mp h with rfl | hmore
          · rw [List.mem_cons, not_or]
            exact ⟨fun hsep => hc hsep.symm, ih List.mem_cons_self⟩
          · exact ih (List.mem_cons_of_mem _ hmore)

/-- The segments of joined parts are the parts. -/
theorem segments_intercalate {sep : Char} {parts : List (List Char)} (hne : parts ≠ [])
    (h : ∀ part ∈ parts, sep ∉ part) : segments sep ([sep].intercalate parts) = parts := by
  rw [segments_eq_splitOn]
  exact List.splitOn_intercalate sep h hne

/-- A separator ends a segment, and what follows it is divided for itself. -/
theorem segments_append_cons (sep : Char) (a b : List Char) :
    segments sep (a ++ sep :: b) = segments sep a ++ segments sep b := by
  induction a with
  | nil => simp [segments]
  | cons c a ih =>
      rw [List.cons_append, segments, segments, ih]
      split
      · rfl
      · cases hsegments : segments sep a with
        | nil => exact absurd hsegments (segments_ne_nil sep a)
        | cons first more => rfl

/-- A text without separators is its only segment. -/
theorem segments_of_not_mem {sep : Char} {s : List Char} (h : sep ∉ s) : segments sep s = [s] := by
  have hparts : segments sep ([sep].intercalate [s]) = [s] :=
    segments_intercalate (List.cons_ne_nil _ _) (by simpa using h)
  simpa using hparts

theorem firstSegment_cons_of_ne {sep c : Char} (h : c ≠ sep) (rest : List Char) :
    firstSegment sep (c :: rest) = c :: firstSegment sep rest :=
  List.takeWhile_cons_of_pos (p := (· != sep)) (bne_iff_ne.mpr h)

theorem firstSegment_cons_self (sep : Char) (rest : List Char) :
    firstSegment sep (sep :: rest) = [] := by
  simp [firstSegment]

theorem firstSegment_of_not_mem {sep : Char} {s : List Char} (h : sep ∉ s) :
    firstSegment sep s = s := by
  induction s with
  | nil => rfl
  | cons c rest ih =>
      rw [List.mem_cons, not_or] at h
      rw [firstSegment_cons_of_ne (Ne.symm h.1), ih h.2]

/-- What follows the separator is not in the first segment. -/
theorem firstSegment_append_cons (sep : Char) (a b : List Char) :
    firstSegment sep (a ++ sep :: b) = firstSegment sep a := by
  induction a with
  | nil => simp [firstSegment]
  | cons c a ih =>
      simp only [firstSegment] at ih
      simp only [firstSegment, List.cons_append, List.takeWhile_cons, ih]

/-- What follows the last separator is a segment. -/
theorem lastSegment_mem_segments (sep : Char) (s : List Char) :
    lastSegment sep s ∈ segments sep s := by
  have hsplit : s = (s.reverse.dropWhile (· != sep)).reverse ++ lastSegment sep s := by
    rw [lastSegment, ← List.reverse_append, List.takeWhile_append_dropWhile, List.reverse_reverse]
  have hlast : sep ∉ lastSegment sep s := by
    intro h
    rw [lastSegment, List.mem_reverse] at h
    simpa using List.all_eq_true.mp List.all_takeWhile sep h
  cases hbefore : s.reverse.dropWhile (· != sep) with
  | nil =>
      rw [hbefore, List.reverse_nil, List.nil_append] at hsplit
      rw [← hsplit, segments_of_not_mem (hsplit ▸ hlast)]
      exact List.mem_singleton_self s
  | cons c before =>
      have hc : c = sep := by
        have hhead := List.head?_dropWhile_not (· != sep) s.reverse
        rw [hbefore] at hhead
        simpa using hhead
      rw [hbefore, hc, List.reverse_cons, List.append_assoc, List.singleton_append] at hsplit
      rw [congrArg (segments sep) hsplit, segments_append_cons, segments_of_not_mem hlast]
      simp

/-- An empty part at the end leaves a separator there. -/
theorem intercalate_append_nil (sep : List Char) {parts : List (List Char)} (h : parts ≠ []) :
    sep.intercalate (parts ++ [[]]) = sep.intercalate parts ++ sep := by
  induction parts with
  | nil => exact absurd rfl h
  | cons first more ih =>
      cases more with
      | nil => simp
      | cons second more =>
          rw [List.cons_append, List.cons_append, List.intercalate_cons_cons,
            List.intercalate_cons_cons, ← List.cons_append, ih (List.cons_ne_nil _ _)]
          exact (List.append_assoc _ _ _).symm

/-! ### Characters of joined parts -/

theorem mem_intercalate {c : Char} {sep part : List Char} {parts : List (List Char)}
    (hpart : part ∈ parts) (hc : c ∈ part) : c ∈ sep.intercalate parts := by
  induction parts with
  | nil => cases hpart
  | cons first more ih =>
      cases more with
      | nil =>
          rw [List.mem_singleton.mp hpart] at hc
          simpa using hc
      | cons second more =>
          rw [List.intercalate_cons_cons, List.mem_append, List.mem_append]
          rcases List.mem_cons.mp hpart with rfl | hmore
          · exact .inl (.inl hc)
          · exact .inr (ih hmore)

theorem mem_or_exists_of_mem_intercalate {c : Char} {sep : List Char} {parts : List (List Char)}
    (h : c ∈ sep.intercalate parts) : c ∈ sep ∨ ∃ part ∈ parts, c ∈ part := by
  induction parts with
  | nil => cases h
  | cons first more ih =>
      cases more with
      | nil => exact .inr ⟨first, List.mem_cons_self, by simpa using h⟩
      | cons second more =>
          rw [List.intercalate_cons_cons, List.mem_append, List.mem_append] at h
          rcases h with (hfirst | hsep) | hmore
          · exact .inr ⟨first, List.mem_cons_self, hfirst⟩
          · exact .inl hsep
          · refine (ih hmore).imp_right fun ⟨part, hpart, hc⟩ => ?_
            exact ⟨part, List.mem_cons_of_mem _ hpart, hc⟩

/-- The characters of the segments are characters of the text. -/
theorem mem_of_mem_segments {sep c : Char} {s part : List Char} (hpart : part ∈ segments sep s)
    (hc : c ∈ part) : c ∈ s := by
  rw [← intercalate_segments sep s]
  exact mem_intercalate hpart hc

/-- The characters of a text are those of its segments, and the separator. -/
theorem eq_or_exists_of_mem {sep c : Char} {s : List Char} (h : c ∈ s) :
    c = sep ∨ ∃ part ∈ segments sep s, c ∈ part := by
  rw [← intercalate_segments sep s] at h
  exact (mem_or_exists_of_mem_intercalate h).imp_left List.mem_singleton.mp

end Rulebook.Text
