/-
**Rows of characters.**

What is shown below a line of a source is drawn: bars, labels and carets are put into rows at given
columns, the later over the earlier.

Main definitions:

* `Rulebook.Snippet.Canvas`, `Rulebook.Snippet.Canvas.put` — rows, and putting a text into one.
-/

set_option autoImplicit false

namespace Rulebook.Snippet

/-- Rows of characters. -/
abbrev Canvas := List (List Char)

namespace Canvas

/-- A row with a text put at a column. -/
def putRow (column : Nat) (text row : List Char) : List Char :=
  if text.isEmpty then row
  else
    row.take column ++ List.replicate (column - row.length) ' ' ++ text ++
      row.drop (column + text.length)

/-- Puts a text into a row, at a column. -/
def put (row column : Nat) (text : List Char) (canvas : Canvas) : Canvas :=
  canvas.modify row (putRow column text)

/-- Puts a text into several rows, at the same column. -/
def putDown (rows : List Nat) (column : Nat) (text : List Char) (canvas : Canvas) : Canvas :=
  rows.foldl (fun drawn row => put row column text drawn) canvas

end Canvas

end Rulebook.Snippet
