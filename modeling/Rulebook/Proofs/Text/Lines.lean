/-
**Lines and blanks of written texts.**

A text that was written line by line is read back as these lines, as long as no line holds a line
feed or a carriage return.  A text of several lines is written by its segments between line feeds,
since its lines do not tell whether it ends with a line feed; the two differ by an empty line at
most.

Main definitions:

* `Rulebook.Text.withoutReturn` — a line without the carriage return that a line feed takes along;
* `Rulebook.Text.IsLine` — what is read back as a line if a line feed is put behind it;
* `Rulebook.Text.written` — lines with a line feed after each;
* `Rulebook.Text.Begins`, `Rulebook.Text.Ends` — what holds of the character at the beginning of a
  text, or of those at both of its ends.

Main results:

* `Rulebook.Text.lines_append_cons` — what stands in front of a line feed is a line, but for a
  carriage return at its end;
* `Rulebook.Text.lines_written_of_isLine` — **written lines are read back**;
* `Rulebook.Text.exists_prefix_of_mem_lines` — the lines of joined texts are what these begin with;
* `Rulebook.Text.segments_eq_lines_or` — the segments of a text are its lines, but for an empty one;
* `Rulebook.Text.trim_blanks_append`, `Rulebook.Text.trim_append_blanks` — blanks around a text do
  not matter to what trimming leaves.
-/

import Mathlib.Data.List.Basic
import Rulebook.Proofs.Text.Segments
import Rulebook.Text.Blank
import Rulebook.Text.Lines
import Rulebook.Text.Page

set_option autoImplicit false

namespace Rulebook.Text

/-! ### Lines -/

/-- Whether a text fits on a line: it holds neither line feeds nor carriage returns. -/
def Unbroken (s : List Char) : Prop := '\n' ∉ s ∧ '\r' ∉ s

instance (s : List Char) : Decidable (Unbroken s) := inferInstanceAs (Decidable (_ ∧ _))

theorem unbroken_of_forall {s : List Char} (h : ∀ c ∈ s, c ≠ '\n' ∧ c ≠ '\r') : Unbroken s :=
  ⟨fun hn => (h _ hn).1 rfl, fun hr => (h _ hr).2 rfl⟩

theorem Unbroken.of_mem {s : List Char} (h : Unbroken s) {c : Char} (hc : c ∈ s) :
    c ≠ '\n' ∧ c ≠ '\r' :=
  ⟨fun heq => h.1 (heq ▸ hc), fun heq => h.2 (heq ▸ hc)⟩

theorem Unbroken.append {a b : List Char} (ha : Unbroken a) (hb : Unbroken b) :
    Unbroken (a ++ b) :=
  ⟨fun h => (List.mem_append.mp h).elim ha.1 hb.1, fun h => (List.mem_append.mp h).elim ha.2 hb.2⟩

/-- Lines with a line feed after each. -/
def written (ls : List (List Char)) : List Char := ls.flatMap fun line => line ++ ['\n']

theorem lines_cons_of_eq_nil {c : Char} (hn : c ≠ '\n') (hr : c ≠ '\r') {rest : List Char}
    (h : lines rest = []) : lines (c :: rest) = [[c]] := by
  simp [lines, hr, h]

theorem lines_cons_of_eq_cons {c : Char} (hn : c ≠ '\n') (hr : c ≠ '\r')
    {rest line : List Char} {more : List (List Char)} (h : lines rest = line :: more) :
    lines (c :: rest) = (c :: line) :: more := by
  simp [lines, hr, h]

/-- A line without the carriage return at its end, which belongs to the ending if a line feed
follows. -/
def withoutReturn (line : List Char) : List Char :=
  if line.getLast? = some '\r' then line.dropLast else line

theorem withoutReturn_cons_cons (c d : Char) (line : List Char) :
    withoutReturn (c :: d :: line) = c :: withoutReturn (d :: line) := by
  rw [withoutReturn, withoutReturn, List.getLast?_cons_cons]
  split <;> rfl

theorem withoutReturn_eq_self {line : List Char} (h : line.getLast? ≠ some '\r') :
    withoutReturn line = line := if_neg h

theorem withoutReturn_prefix (line : List Char) : withoutReturn line <+: line := by
  rw [withoutReturn]
  split
  · exact List.dropLast_prefix line
  · exact List.prefix_rfl

/-- What stands in front of a line feed is a line. -/
theorem lines_append_cons {line : List Char} (h : '\n' ∉ line) (rest : List Char) :
    lines (line ++ '\n' :: rest) = withoutReturn line :: lines rest := by
  induction line with
  | nil => exact lines_newline rest
  | cons c line ih =>
      rw [List.mem_cons, not_or] at h
      cases line with
      | nil =>
          by_cases hr : c = '\r'
          · rw [hr]
            rfl
          · rw [withoutReturn_eq_self (by simpa using hr), List.singleton_append, lines,
              lines_newline]
            · exact Ne.symm h.1
            · exact fun _ heq => absurd heq hr
      | cons d line =>
          -- A carriage return in front of another character is an ordinary one.
          have hd : d ≠ '\n' := fun hd => h.2 (hd ▸ List.mem_cons_self)
          have hmore := ih h.2
          rw [withoutReturn_cons_cons]
          simp only [List.cons_append] at hmore ⊢
          rw [lines, hmore]
          · exact Ne.symm h.1
          · intro rest' _ heq
            exact hd (List.cons.inj heq).1

/-- Lines are read back without the carriage returns at their ends. -/
theorem lines_written_eq {ls : List (List Char)} (h : ∀ line ∈ ls, '\n' ∉ line) :
    lines (written ls) = ls.map withoutReturn := by
  induction ls with
  | nil => rfl
  | cons line ls ih =>
      obtain ⟨hline, hls⟩ := List.forall_mem_cons.mp h
      rw [written, List.flatMap_cons, List.append_assoc, List.singleton_append,
        lines_append_cons hline]
      exact congrArg (withoutReturn line :: ·) (ih hls)

/-- Whether a text is a line if a line feed follows. -/
def IsLine (s : List Char) : Prop := '\n' ∉ s ∧ s.getLast? ≠ some '\r'

instance (s : List Char) : Decidable (IsLine s) := inferInstanceAs (Decidable (_ ∧ _))

theorem Unbroken.isLine {s : List Char} (h : Unbroken s) : IsLine s :=
  ⟨h.1, fun hlast => h.2 (List.mem_of_getLast? hlast)⟩

/-- **Written lines are read back.** -/
theorem lines_written_of_isLine {ls : List (List Char)} (h : ∀ line ∈ ls, IsLine line) :
    lines (written ls) = ls := by
  rw [lines_written_eq fun line hline => (h line hline).1,
    List.map_congr_left fun line hline => withoutReturn_eq_self (h line hline).2]
  exact List.map_id ls

theorem lines_written {ls : List (List Char)} (h : ∀ line ∈ ls, Unbroken line) :
    lines (written ls) = ls :=
  lines_written_of_isLine fun line hline => (h line hline).isLine

/-- A page is written line by line. -/
theorem toList_page (ls : List String) : (page ls).toList = written (ls.map String.toList) := by
  induction ls with
  | nil => rfl
  | cons line ls ih =>
      rw [page_cons, String.toList_append, String.toList_append, ih]
      rfl

/-- A text without line feeds is its only line. -/
theorem lines_of_not_mem {s : List Char} (h : '\n' ∉ s) (hne : s ≠ []) : lines s = [s] := by
  induction s with
  | nil => exact absurd rfl hne
  | cons c s ih =>
      rw [List.mem_cons, not_or] at h
      have hfeed : ∀ rest', s ≠ '\n' :: rest' := by
        rintro rest' rfl
        exact h.2 List.mem_cons_self
      rw [lines]
      · by_cases hs : s = []
        · rw [hs, lines_nil]
        · rw [ih h.2 hs]
      · exact Ne.symm h.1
      · exact fun rest' _ heq => hfeed rest' heq

/-- Every line of joined texts is what one of them begins with. -/
theorem exists_prefix_of_mem_lines {ls : List (List Char)} (h : ∀ text ∈ ls, '\n' ∉ text)
    {line : List Char} (hline : line ∈ lines (unlines ls)) : ∃ text ∈ ls, line <+: text := by
  induction ls with
  | nil => cases hline
  | cons first more ih =>
      obtain ⟨hfirst, hmore⟩ := List.forall_mem_cons.mp h
      cases more with
      | nil =>
          rw [unlines, List.intercalate_singleton] at hline
          by_cases hempty : first = []
          · rw [hempty] at hline
            cases hline
          · rw [lines_of_not_mem hfirst hempty] at hline
            rw [List.mem_singleton.mp hline]
            exact ⟨first, List.mem_cons_self, List.prefix_rfl⟩
      | cons second more =>
          have hlines : lines (unlines (first :: second :: more)) =
              withoutReturn first :: lines (unlines (second :: more)) := by
            rw [unlines, List.intercalate_cons_cons, List.append_assoc, List.singleton_append,
              lines_append_cons hfirst, unlines]
          rw [hlines, List.mem_cons] at hline
          obtain rfl | hline := hline
          · exact ⟨first, List.mem_cons_self, withoutReturn_prefix first⟩
          · obtain ⟨text, htext, hprefix⟩ := ih hmore hline
            exact ⟨text, List.mem_cons_of_mem first htext, hprefix⟩

/-! ### Segments between line feeds -/

/-- The segments of a text are its lines; after a line feed at the end there is an empty one. -/
theorem segments_eq_lines_or {s : List Char} (h : '\r' ∉ s) :
    segments '\n' s = lines s ∨ segments '\n' s = lines s ++ [[]] := by
  induction s with
  | nil => exact .inr rfl
  | cons c rest ih =>
      rw [List.mem_cons, not_or] at h
      by_cases hc : c = '\n'
      · rw [hc, segments, if_pos rfl, lines_newline]
        exact (ih h.2).imp (congrArg ([] :: ·)) (congrArg ([] :: ·))
      · rw [segments, if_neg hc]
        cases hlines : lines rest with
        | nil =>
            -- There is an empty segment at least, so that it is the only one.
            rw [hlines] at ih
            rcases ih h.2 with hsame | hmore
            · exact absurd hsame (segments_ne_nil '\n' rest)
            · rw [lines_cons_of_eq_nil hc (Ne.symm h.1) hlines, hmore]
              exact .inl rfl
        | cons line more =>
            rw [lines_cons_of_eq_cons hc (Ne.symm h.1) hlines]
            rw [hlines] at ih
            rcases ih h.2 with hsame | hmore
            · rw [hsame]
              exact .inl rfl
            · rw [hmore]
              exact .inr rfl

/-- What holds of the lines, and of an empty line, holds of the segments. -/
theorem forall_mem_segments {p : List Char → Prop} {s : List Char} (h : '\r' ∉ s) (hempty : p [])
    (hlines : ∀ line ∈ lines s, p line) : ∀ part ∈ segments '\n' s, p part := by
  intro part hpart
  rcases segments_eq_lines_or h with hsame | hmore
  · exact hlines part (hsame ▸ hpart)
  · rw [hmore, List.mem_append, List.mem_singleton] at hpart
    rcases hpart with hline | rfl
    · exact hlines part hline
    · exact hempty

theorem unbroken_of_mem_segments {s part : List Char} (h : '\r' ∉ s)
    (hpart : part ∈ segments '\n' s) : Unbroken part :=
  ⟨not_mem_of_mem_segments hpart, fun hr => h (mem_of_mem_segments hpart hr)⟩

/-! ### The ends of a text -/

/-- Whether a text begins with a character that satisfies `p`, or is empty. -/
def Begins (p : Char → Prop) (s : List Char) : Prop := ∀ c ∈ s.head?, p c

/-- Whether a text begins and ends with characters that satisfy `p`, or is empty. -/
def Ends (p : Char → Prop) (s : List Char) : Prop := Begins p s ∧ ∀ c ∈ s.getLast?, p c

instance (p : Char → Prop) [DecidablePred p] (s : List Char) : Decidable (Begins p s) :=
  decidable_of_iff (s.head?.all (fun c => decide (p c)) = true)
    (by simp [Begins, Option.all_eq_true])

instance (p : Char → Prop) [DecidablePred p] (s : List Char) : Decidable (Ends p s) :=
  decidable_of_iff (Begins p s ∧ s.getLast?.all (fun c => decide (p c)) = true)
    (by simp [Ends, Option.all_eq_true])

theorem ends_of_forall {p : Char → Prop} {s : List Char} (h : ∀ c ∈ s, p c) : Ends p s :=
  ⟨fun c hc => h c (List.mem_of_mem_head? hc), fun c hc => h c (List.mem_of_mem_getLast? hc)⟩

theorem Ends.imp {p q : Char → Prop} {s : List Char} (h : Ends p s) (hpq : ∀ c, p c → q c) :
    Ends q s :=
  ⟨fun c hc => hpq c (h.1 c hc), fun c hc => hpq c (h.2 c hc)⟩

/-- What stands between two texts does not matter to the ends of the whole. -/
theorem Ends.append {p : Char → Prop} {s t : List Char} (hs : Ends p s) (ht : Ends p t)
    (hsne : s ≠ []) (htne : t ≠ []) (between : List Char) : Ends p (s ++ between ++ t) := by
  constructor
  · obtain ⟨c, rest, rfl⟩ := List.exists_cons_of_ne_nil hsne
    exact hs.1
  · rw [List.getLast?_append_of_ne_nil _ htne]
    exact ht.2

/-- Trimming leaves a text alone exactly if there are no blanks at its ends. -/
theorem trim_eq_self_iff_ends {s : List Char} :
    trim s = s ↔ Ends (fun c => isBlank c = false) s := trim_eq_self_iff s

/-! ### Blanks -/

theorem trim_cons {c : Char} (hc : isBlank c = true) (s : List Char) : trim (c :: s) = trim s := by
  rw [trim, trim, trimStart, List.dropWhile_cons, if_pos hc]
  rfl

theorem trim_append_singleton {c : Char} (hc : isBlank c = true) (s : List Char) :
    trim (s ++ [c]) = trim s := by
  rw [trim, trim, trimStart, trimStart, List.dropWhile_append]
  split
  · rename_i hblank
    rw [List.isEmpty_iff.mp hblank, List.dropWhile_cons, if_pos hc]
    rfl
  · rw [trimEnd, trimEnd, dropEndWhile, dropEndWhile, List.reverse_append, List.reverse_singleton,
      List.singleton_append, List.dropWhile_cons, if_pos hc]

theorem trim_blanks_append {blanks : List Char} (h : allBlank blanks = true) (s : List Char) :
    trim (blanks ++ s) = trim s := by
  induction blanks with
  | nil => rfl
  | cons c rest ih =>
      rw [allBlank, List.all_cons, Bool.and_eq_true] at h
      rw [List.cons_append, trim_cons h.1, ih h.2]

theorem trim_append_blanks {blanks : List Char} (h : allBlank blanks = true) (s : List Char) :
    trim (s ++ blanks) = trim s := by
  induction blanks generalizing s with
  | nil => rw [List.append_nil]
  | cons c rest ih =>
      rw [allBlank, List.all_cons, Bool.and_eq_true] at h
      rw [List.append_cons, ih h.2, trim_append_singleton h.1]

end Rulebook.Text
