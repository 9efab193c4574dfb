/-
**Lines of a text.**

A line ends at a line feed, and a carriage return directly before the line feed belongs to the
ending.  A text that ends with a line feed has no further, empty line after it, and a carriage
return elsewhere is an ordinary character.

Main definitions:

* `Rulebook.Text.lines` — the lines of a text, without their endings;
* `Rulebook.Text.unlines` — lines joined by line feeds.

Main statements:

* `Rulebook.Text.not_mem_of_mem_lines` — no line holds a line feed.
-/

set_option autoImplicit false

namespace Rulebook.Text

/-- The lines of a text, without their endings. -/
def lines : List Char → List (List Char)
  | [] => []
  | '\n' :: rest => [] :: lines rest
  | '\r' :: '\n' :: rest => [] :: lines rest
  | c :: rest =>
    match lines rest with
    | [] => [[c]]
    | line :: more => (c :: line) :: more

/-- Lines joined by line feeds, with none after the last. -/
def unlines (ls : List (List Char)) : List Char := ['\n'].intercalate ls

@[simp] theorem lines_nil : lines [] = [] := rfl

@[simp] theorem lines_newline (rest : List Char) : lines ('\n' :: rest) = [] :: lines rest := by
  rw [lines]

/-- No line holds a line feed. -/
theorem not_mem_of_mem_lines {s line : List Char} (h : line ∈ lines s) : '\n' ∉ line := by
  fun_induction lines s generalizing line with
  | case1 => simp at h
  | case2 rest ih =>
    rcases List.mem_cons.1 h with rfl | h
    · simp
    · exact ih h
  | case3 rest ih =>
    rcases List.mem_cons.1 h with rfl | h
    · simp
    · exact ih h
  | case4 c rest hn hr hl ih =>
    rcases List.mem_singleton.1 h with rfl
    simpa using fun hc => hn hc.symm
  | case5 c rest hn hr first more hl ih =>
    rw [hl] at ih
    rcases List.mem_cons.1 h with rfl | h
    · have := ih (List.mem_cons_self)
      simp only [List.mem_cons, not_or]
      exact ⟨fun hc => hn hc.symm, this⟩
    · exact ih (List.mem_cons_of_mem _ h)

end Rulebook.Text
