/-
**Blank characters and trimming.**

Rule documents, templates and settings come from many editors, so "blank" means every character
that Unicode calls white space, not only the space and the tab.  Trimming removes blank characters
from the ends of a text and leaves its inside alone.

Main definitions:

* `Rulebook.Text.isBlank` — the twenty-five characters with the `White_Space` property;
* `Rulebook.Text.trimStart`, `Rulebook.Text.trimEnd`, `Rulebook.Text.trim` — a text without the
  blank characters at its beginning, at its end, at both.

Main statements:

* `Rulebook.Text.trim_eq_self_iff` — a text is unchanged by trimming exactly when neither its
  first nor its last character is blank.
-/

set_option autoImplicit false

namespace Rulebook.Text

/-! ### Blank characters -/

/-- The characters with the `White_Space` property. -/
def isBlank (c : Char) : Bool :=
  let n := c.toNat
  (9 ≤ n && n ≤ 13) || n == 0x20 || n == 0x85 || n == 0xA0 || n == 0x1680 ||
    (0x2000 ≤ n && n ≤ 0x200A) || n == 0x2028 || n == 0x2029 || n == 0x202F || n == 0x205F ||
    n == 0x3000

/-- Whether a text holds blank characters only. -/
def allBlank (s : List Char) : Bool := s.all isBlank

/-! ### Trimming -/

/-- A text without the characters satisfying `p` at its end. -/
def dropEndWhile (p : Char → Bool) (s : List Char) : List Char :=
  (s.reverse.dropWhile p).reverse

/-- A text without the blank characters at its beginning. -/
def trimStart (s : List Char) : List Char := s.dropWhile isBlank

/-- A text without the blank characters at its end. -/
def trimEnd (s : List Char) : List Char := dropEndWhile isBlank s

/-- A text without the blank characters at its ends. -/
def trim (s : List Char) : List Char := trimEnd (trimStart s)

@[simp] theorem dropEndWhile_nil (p : Char → Bool) : dropEndWhile p [] = [] := rfl

/-- What is dropped at the end satisfies the predicate. -/
theorem exists_eq_dropEndWhile_append (p : Char → Bool) (s : List Char) :
    ∃ t, s = dropEndWhile p s ++ t ∧ ∀ c ∈ t, p c = true := by
  refine ⟨(s.reverse.takeWhile p).reverse, ?_, ?_⟩
  · rw [dropEndWhile, ← List.reverse_append, List.takeWhile_append_dropWhile, List.reverse_reverse]
  · exact fun c hc => List.all_eq_true.1 List.all_takeWhile c (List.mem_reverse.1 hc)

/-- A text is unchanged by dropping from its end exactly when its last character stays. -/
theorem dropEndWhile_eq_self_iff (p : Char → Bool) (s : List Char) :
    dropEndWhile p s = s ↔ ∀ c ∈ s.getLast?, p c = false := by
  rw [dropEndWhile, List.reverse_eq_iff, List.getLast?_eq_head?_reverse]
  cases s.reverse with
  | nil => simp
  | cons c r =>
    rw [List.dropWhile_cons]
    by_cases h : p c = true
    · simp only [h, if_true, List.head?_cons, Option.mem_some_iff, forall_eq',
        Bool.true_eq_false, iff_false]
      intro hr
      have := congrArg List.length hr
      have hle := (List.dropWhile_sublist (l := r) p).length_le
      simp only [List.length_cons] at this
      omega
    · simp [h]

/-- A text is unchanged by dropping from its beginning exactly when its first character stays. -/
theorem dropWhile_eq_self_iff (p : Char → Bool) (s : List Char) :
    s.dropWhile p = s ↔ ∀ c ∈ s.head?, p c = false := by
  cases s with
  | nil => simp
  | cons c r =>
    rw [List.dropWhile_cons]
    by_cases h : p c = true
    · simp only [h, if_true, List.head?_cons, Option.mem_some_iff, forall_eq',
        Bool.true_eq_false, iff_false]
      intro hr
      have := congrArg List.length hr
      have hle := (List.dropWhile_sublist (l := r) p).length_le
      simp only [List.length_cons] at this
      omega
    · simp [h]

theorem length_dropEndWhile_le (p : Char → Bool) (s : List Char) :
    (dropEndWhile p s).length ≤ s.length := by
  rw [dropEndWhile, List.length_reverse]
  simpa using (List.dropWhile_sublist (l := s.reverse) p).length_le

/-- Trimming does not make a text longer. -/
theorem length_trim_le (s : List Char) : (trim s).length ≤ s.length :=
  Nat.le_trans (length_dropEndWhile_le isBlank (trimStart s))
    (List.dropWhile_sublist isBlank).length_le

/-- A text is unchanged by trimming exactly when neither end of it is blank. -/
theorem trim_eq_self_iff (s : List Char) :
    trim s = s ↔ (∀ c ∈ s.head?, isBlank c = false) ∧ ∀ c ∈ s.getLast?, isBlank c = false := by
  constructor
  · intro h
    have hlen : (trimStart s).length = s.length := by
      have h₁ : (trim s).length ≤ (trimStart s).length := by
        obtain ⟨t, ht, -⟩ := exists_eq_dropEndWhile_append isBlank (trimStart s)
        have := congrArg List.length ht
        rw [List.length_append] at this
        show (dropEndWhile isBlank (trimStart s)).length ≤ _
        omega
      have h₂ : (trimStart s).length ≤ s.length :=
        (List.dropWhile_sublist (l := s) isBlank).length_le
      have h₃ := congrArg List.length h
      omega
    have hstart : trimStart s = s :=
      (List.dropWhile_sublist (l := s) isBlank).eq_of_length hlen
    refine ⟨(dropWhile_eq_self_iff isBlank s).1 hstart, ?_⟩
    rw [trim, hstart] at h
    exact (dropEndWhile_eq_self_iff isBlank s).1 h
  · rintro ⟨hs, he⟩
    rw [trim, trimStart, (dropWhile_eq_self_iff isBlank s).2 hs]
    exact (dropEndWhile_eq_self_iff isBlank s).2 he

/-- Trimming a second time does nothing. -/
theorem trim_trim (s : List Char) : trim (trim s) = trim s := by
  have hkept (t : List Char) : ∀ c ∈ (t.dropWhile isBlank).head?, isBlank c = false := by
    intro c hc
    have hhead := List.head?_dropWhile_not isBlank t
    rw [Option.mem_def.mp hc] at hhead
    simpa using hhead
  refine (trim_eq_self_iff (trim s)).2 ⟨fun c hc => ?_, fun c hc => ?_⟩
  · -- What is dropped at the end does not change the first character that is left.
    obtain ⟨blanks, hblanks, -⟩ := exists_eq_dropEndWhile_append isBlank (trimStart s)
    obtain ⟨rest, hrest⟩ := List.head?_eq_some_iff.1 (Option.mem_def.1 hc)
    refine hkept s c ?_
    change (trimStart s).head? = some c
    rw [hblanks]
    change (trim s ++ blanks).head? = some c
    rw [hrest]
    rfl
  · refine hkept (trimStart s).reverse c ?_
    rwa [trim, trimEnd, dropEndWhile, List.getLast?_reverse] at hc

end Rulebook.Text
