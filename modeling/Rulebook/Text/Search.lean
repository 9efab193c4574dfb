/-
**Searching and cutting texts.**

The places where a given piece of text occurs, and the parts of a text before and after such a
place.  All functions look for the first occurrence unless their name says otherwise.

Main definitions:

* `Rulebook.Text.splitFirst`, `Rulebook.Text.splitLast` — the parts around the first occurrence of
  a text and around the last occurrence of a character;
* `Rulebook.Text.contains` — whether a text occurs in another;
* `Rulebook.Text.countOf` — the number of places where a text occurs;
* `Rulebook.Text.lastSegment` — what follows the last occurrence of a character.

Main statements:

* `Rulebook.Text.splitFirst_eq_some` — the parts and the separator make up the text.
-/

set_option autoImplicit false

namespace Rulebook.Text

/-! ### First occurrence -/

/-- The parts of a text before and after the first occurrence of `sep`. -/
def splitFirst (sep : List Char) : List Char → Option (List Char × List Char)
  | [] => if sep.isEmpty then some ([], []) else none
  | c :: rest =>
    match sep.isPrefixOf? (c :: rest) with
    | some after => some ([], after)
    | none => (splitFirst sep rest).map fun parts => (c :: parts.1, parts.2)

/-- Whether `piece` occurs in a text. -/
def contains (piece s : List Char) : Bool := (splitFirst piece s).isSome

/-- A prefix that can be cut off stands at the beginning. -/
theorem eq_append_of_isPrefixOf? {p s rest : List Char} (h : p.isPrefixOf? s = some rest) :
    s = p ++ rest := by
  induction p generalizing s with
  | nil => exact Option.some.inj h
  | cons a p ih =>
    cases s with
    | nil => exact nomatch h
    | cons b s =>
      have h' : (if a == b then p.isPrefixOf? s else none) = some rest := h
      split at h'
      · rename_i hab
        rw [ih h', eq_of_beq hab, List.cons_append]
      · exact nomatch h'

/-- The parts around an occurrence and the occurrence make up the text. -/
theorem splitFirst_eq_some {sep s before after : List Char}
    (h : splitFirst sep s = some (before, after)) : s = before ++ sep ++ after := by
  induction s generalizing before after with
  | nil =>
    rw [splitFirst] at h
    split at h
    · rename_i he
      simp_all
    · simp at h
  | cons c rest ih =>
    rw [splitFirst] at h
    split at h
    · rename_i hp
      simp only [Option.some.injEq, Prod.mk.injEq] at h
      obtain ⟨rfl, rfl⟩ := h
      simpa using eq_append_of_isPrefixOf? hp
    · cases hs : splitFirst sep rest with
      | none => simp [hs] at h
      | some parts =>
        simp only [hs, Option.map_some, Option.some.injEq, Prod.mk.injEq] at h
        obtain ⟨rfl, rfl⟩ := h
        rw [ih hs]
        simp

/-! ### Last occurrence -/

/-- What follows the last `sep`, or the whole text if there is none. -/
def lastSegment (sep : Char) (s : List Char) : List Char :=
  (s.reverse.takeWhile (· != sep)).reverse

/-- The parts of a text before and after the last `sep`. -/
def splitLast (sep : Char) (s : List Char) : Option (List Char × List Char) :=
  match s.reverse.dropWhile (· != sep) with
  | [] => none
  | _ :: before => some (before.reverse, lastSegment sep s)

/-! ### Counting -/

/-- The number of places of a text at which the rest of it satisfies `p`. -/
def countSuffixes (p : List Char → Bool) : List Char → Nat
  | [] => 0
  | c :: rest => (if p (c :: rest) then 1 else 0) + countSuffixes p rest

/-- The number of places at which `piece`, which is not empty, occurs. -/
def countOf (piece s : List Char) : Nat := countSuffixes piece.isPrefixOf s

/-! ### Segments -/

/-- The segments of a text between separators; a text without one is its only segment. -/
def segments (sep : Char) : List Char → List (List Char)
  | [] => [[]]
  | c :: rest =>
    if c = sep then [] :: segments sep rest
    else
      match segments sep rest with
      | [] => [[c]]
      | first :: more => (c :: first) :: more

/-- The first segment of a text. -/
def firstSegment (sep : Char) (s : List Char) : List Char := s.takeWhile (· != sep)

theorem segments_ne_nil (sep : Char) (s : List Char) : segments sep s ≠ [] := by
  cases s with
  | nil => simp [segments]
  | cons c rest =>
    rw [segments]
    split
    · simp
    · split <;> simp

/-- The segments joined by the separator are the text. -/
theorem intercalate_segments (sep : Char) (s : List Char) :
    [sep].intercalate (segments sep s) = s := by
  induction s with
  | nil => simp [segments]
  | cons c rest ih =>
    rw [segments]
    split
    · rename_i hc
      cases hs : segments sep rest with
      | nil => exact absurd hs (segments_ne_nil sep rest)
      | cons first more =>
        rw [hs] at ih
        rw [List.intercalate_cons_cons, ih, hc]
        simp
    · cases hs : segments sep rest with
      | nil => exact absurd hs (segments_ne_nil sep rest)
      | cons first more =>
        rw [hs] at ih
        cases more with
        | nil => simp_all
        | cons second more =>
          rw [List.intercalate_cons_cons] at ih ⊢
          rw [← ih]
          simp

end Rulebook.Text
