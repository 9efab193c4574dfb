/-
**The window on long lines.**

A line that does not fit into the width of the output is shown in part: a window of columns that is
chosen so that the marks and what is said about them can be seen.

Main definitions:

* `Rulebook.Snippet.Window`, `Rulebook.Snippet.Window.ofLines` — windows, and the one for a list of
  lines;
* `Rulebook.Snippet.Window.left`, `Rulebook.Snippet.Window.right` — the columns of a line that are
  shown.
-/

import Rulebook.Snippet.Basic

set_option autoImplicit false

namespace Rulebook.Snippet

/-- The columns that are shown of long lines. -/
structure Window where
  /-- The first column. -/
  left : Nat
  /-- The column after the last one. -/
  right : Nat
  /-- The width of the output. -/
  width : Nat
  /-- The column, with some room, after the last mark. -/
  markEnd : Nat
  /-- The column, with some room, after the last label. -/
  labelEnd : Nat
  deriving DecidableEq, Repr

namespace Window

/-- The width of the output, with numbers and margins. -/
def outputWidth : Nat := 140

/-- The room that is left for dots where a line is cut. -/
def room : Nat := 6

/-- The width of a character of the indentation; a tab counts as four. -/
def indentWidth (c : Char) : Nat := if c = '\t' then 4 else 1

/-- Whether a character belongs to the indentation of a line. -/
def isIndent (c : Char) : Bool := c == ' ' || c == '\t' || c == '\r' || c == '\x0b' || c == '\x0c'

/-- The indentation of a line; none if there is nothing else on it. -/
def indentation? (text : List Char) : Option Nat :=
  if text.all isIndent then none else some ((text.takeWhile isIndent).foldl (fun n c => n + indentWidth c) 0)

/-- What the indentation counts as if there is no line with anything else. -/
def noIndentation : Nat := Nat.pow 2 64 - 1

/-- The window for lines of a length, with a common indentation, whose marks lie between two columns
and whose labels end at another. -/
def compute (indent markStart markStop labelStop width longest : Nat) : Window :=
  let indent := indent - room
  let markStart := markStart - room
  let markEnd := markStop + room
  let labelEnd := labelStop + room
  let left := if 20 < indent then indent - 16 else 0
  let right := max longest left
  let window (left right : Nat) : Window := ⟨left, right, width, markEnd, labelEnd⟩
  if right - left ≤ width then window left right
  else if labelEnd - indent ≤ width then window indent (indent + width)
  else if labelEnd - markStart ≤ width then
    let left := markStart - (width - (labelEnd - markStart)) / 2
    window left (left + width)
  else if markEnd - markStart ≤ width then
    let left := markStart - (width - (markEnd - markStart)) / 5 * 2
    window left (left + width)
  else window markStart markEnd

/-- The column after a label that stands beside its mark. -/
def labelColumn (mark : Mark) : Nat := mark.stop + Text.byteLength mark.label + 1

/-- The window for a list of lines. -/
def ofLines (lines : List MarkedLine) : Window :=
  let texts := lines.map (·.line.text)
  let marks := lines.flatMap (·.marks)
  let after := ((lines.getLast?.map (·.line.number)).getD 0) + 1
  compute ((texts.filterMap indentation?).min?.getD noIndentation)
    ((marks.map (·.start)).min?.getD 0) ((marks.map (·.stop)).max?.getD 0)
    ((marks.map labelColumn).max?.getD 0)
    (outputWidth - (3 + (toString after).length))
    ((texts.map Text.byteLength).max?.getD 0)

/-- Whether something is cut off at the left. -/
def cutsLeft (w : Window) : Bool := 0 < w.left

/-- The first column that is shown of a line with a length. -/
def leftOf (w : Window) (length : Nat) : Nat := min w.left length

/-- The column after the last one that is shown of a line with a length. -/
def rightOf (w : Window) (length : Nat) : Nat :=
  if length - w.left ≤ w.width then length else min length w.right

/-- Whether something is cut off at the right of a line with a length. -/
def cutsRight (w : Window) (length : Nat) : Bool :=
  let right := if w.right = w.markEnd ∨ w.right = w.labelEnd then w.right - room else w.right
  right < length && w.left + w.width < length

end Window

end Rulebook.Snippet
