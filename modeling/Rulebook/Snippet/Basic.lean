/-
**Marked lines of a source.**

A message about a text shows the lines that it is about and marks the places.  Lines are numbered
from one; lines before the first mark and after the last one are left out.

Main definitions:

* `Rulebook.Snippet.Remark` — a place of a source and what is to be said about it;
* `Rulebook.Snippet.Line`, `Rulebook.Snippet.sourceLines` — the numbered lines of a source;
* `Rulebook.Snippet.Mark`, `Rulebook.Snippet.MarkedLine`, `Rulebook.Snippet.markedLines` — the lines
  that are shown, with their marks.
-/

import Rulebook.Text.Span

set_option autoImplicit false

namespace Rulebook.Snippet

/-- A place of a source, in bytes, and what is to be said about it. -/
structure Remark where
  /-- The place. -/
  span : Span
  /-- What is to be said. -/
  label : String
  deriving DecidableEq, Repr

/-! ### Lines -/

/-- A line of a source. -/
structure Line where
  /-- Its number. -/
  number : Nat
  /-- The byte at which it begins. -/
  start : Nat
  /-- Its text. -/
  text : List Char
  /-- The number of bytes of its ending. -/
  ending : Nat
  deriving DecidableEq, Repr

namespace Line

/-- The byte after the text of a line. -/
def stop (line : Line) : Nat := line.start + Text.byteLength line.text

/-- The byte after the ending of a line. -/
def next (line : Line) : Nat := line.stop + line.ending

end Line

/-- The first line of a text, the size of its ending, and what follows. -/
def firstLine : List Char → List Char × Nat × List Char
  | [] => ([], 0, [])
  | '\n' :: rest => ([], 1, rest)
  | '\r' :: '\n' :: rest => ([], 2, rest)
  | c :: rest =>
    let (text, ending, after) := firstLine rest
    (c :: text, ending, after)

theorem length_firstLine (s : List Char) :
    (firstLine s).1.length + (firstLine s).2.1 + (firstLine s).2.2.length = s.length := by
  fun_induction firstLine s with
  | case1 => rfl
  | case2 rest => simp [Nat.add_comm]
  | case3 rest =>
    simp only [List.length_nil, List.length_cons]
    omega
  | case4 c rest hn hr text ending after h ih =>
    rw [h] at ih
    simp only [List.length_cons] at ih ⊢
    omega

/-- The first line of a text that is not empty takes some of it away. -/
theorem length_after_firstLine {s : List Char} (hs : s ≠ []) :
    (firstLine s).2.2.length < s.length := by
  have h := length_firstLine s
  have hpos : 0 < (firstLine s).1.length + (firstLine s).2.1 := by
    fun_cases firstLine s with
    | case1 => exact absurd rfl hs
    | case2 => exact Nat.one_pos
    | case3 => exact Nat.two_pos
    | case4 => exact Nat.lt_add_right _ (Nat.succ_pos _)
  omega

/-- The lines of a text, of which the first has the given number and begins at the given byte. -/
def linesFrom (number start : Nat) (s : List Char) : List Line :=
  match s with
  | [] => []
  | c :: rest =>
    let line : Line := ⟨number, start, (firstLine (c :: rest)).1, (firstLine (c :: rest)).2.1⟩
    line :: linesFrom (number + 1) line.next (firstLine (c :: rest)).2.2
termination_by s.length
decreasing_by exact length_after_firstLine (List.cons_ne_nil c rest)

/-- The lines of a source. -/
def sourceLines (source : List Char) : List Line := linesFrom 1 0 source

/-! ### Lines that are shown -/

/-- The last line of those shown loses its line feed. -/
def withoutLineFeed (line : Line) : Line :=
  if line.ending = 2 then { line with text := line.text ++ ['\r'], ending := 0 }
  else { line with ending := 0 }

/-- The first place that is marked. -/
def firstPlace (remarks : List Remark) : Nat :=
  (remarks.map (·.span.start)).min?.getD 0

/-- The last place that is marked. -/
def lastPlace (source : List Char) (remarks : List Remark) : Nat :=
  (remarks.map (·.span.stop)).max?.getD (Text.byteLength source)

/-- The lines from that of one place to that of another. -/
def linesBetween (source : List Char) (first last : Nat) : List Line :=
  let kept := (sourceLines source).filter fun line =>
    (first < line.next || (line.ending == 0 && first == line.next)) && line.start ≤ last
  match kept.getLast? with
  | some line => kept.dropLast ++ [withoutLineFeed line]
  | none => []

/-! ### Marks -/

/-- The number of columns that a character takes in the source. -/
def width (c : Char) : Nat := if c.toNat < 32 ∨ c.toNat = 127 then 0 else 1

/-- The number of columns of the characters within the first bytes of a line. -/
def columns (text : List Char) (bytes : Nat) : Nat :=
  (text.take (Text.charOffset text bytes)).foldl (fun n c => n + width c) 0

/-- A part of a line that is marked. -/
structure Mark where
  /-- Its first column. -/
  start : Nat
  /-- The column after it. -/
  stop : Nat
  /-- What is to be said about it. -/
  label : List Char
  deriving DecidableEq, Repr

/-- Whether there is something to be said about a mark. -/
def Mark.hasLabel (mark : Mark) : Bool := !mark.label.isEmpty

/-- A line that is shown. -/
structure MarkedLine where
  /-- The line. -/
  line : Line
  /-- Its marks, by their first column. -/
  marks : List Mark
  deriving DecidableEq, Repr

/-- Whether a place belongs to a line: it may reach over the ending, and one byte over the end of
the source. -/
def Line.holds (line : Line) (span : Span) : Bool :=
  line.start ≤ span.start && span.start ≤ line.next && span.stop ≤ line.stop + max line.ending 1

/-- The line of a place: the first one that holds it, or else the one in which it begins. -/
def lineOf? (lines : List Line) (span : Span) : Option Nat :=
  match lines.find? fun line => line.holds span with
  | some line => some line.number
  | none =>
    (lines.find? fun line => line.start ≤ span.start && span.start < line.next).map (·.number)

/-- The mark of a place of a line; it is at least one column wide. -/
def markOf (line : Line) (remark : Remark) : Mark :=
  let start := columns line.text (remark.span.start - line.start)
  let stop := columns line.text (remark.span.stop - line.start)
  ⟨start, if start = stop then stop + 1 else stop, remark.label.toList⟩

/-- The remarks by the beginning of their places. -/
def inOrder (remarks : List Remark) : List Remark :=
  remarks.mergeSort fun a b => a.span.start ≤ b.span.start

/-- A line with its marks. -/
def mark (lines : List Line) (remarks : List Remark) (line : Line) : MarkedLine :=
  ⟨line, (remarks.filter fun a => lineOf? lines a.span == some line.number).map (markOf line)⟩

/-- The lines that are shown, with their marks. -/
def markedLines (source : List Char) (remarks : List Remark) : List MarkedLine :=
  let lines := linesBetween source (firstPlace remarks) (lastPlace source remarks)
  lines.map (mark lines (inOrder remarks))

end Rulebook.Snippet
