/-
**Drawing messages.**

A message has a title and the lines of a source.  Every line has its number in front of it; carets
stand below what is marked, and labels beside the carets, or further down where there is no room.
Of more than three lines without marks between two with marks only the first and the last are shown.

Main definitions:

* `Rulebook.Snippet.levels` — how far down the labels of a line stand;
* `Rulebook.Snippet.drawLine` — the rows of a line;
* `Rulebook.Snippet.Row`, `Rulebook.Snippet.fold` — the lines that are left out;
* `Rulebook.Snippet.annotate` — the message.
-/

import Rulebook.Snippet.Canvas
import Rulebook.Snippet.Window

set_option autoImplicit false

namespace Rulebook.Snippet

/-! ### Places of labels -/

/-- Whether two marks share a column if the first one is made wider. -/
def overlaps (a b : Mark) (wider : Nat) : Bool :=
  (b.start ≤ a.start && a.start < b.stop) || (a.start ≤ b.start && b.start < a.stop + wider)

/-- Whether two marks are on the same columns, and nothing is to be said about the second one. -/
def joins (mark next : Mark) : Bool :=
  next.start == mark.start && next.stop == mark.stop && !next.hasLabel

/-- Whether the label of a mark has to leave the first row for one of the marks before it. -/
def isCovered (mark : Mark) (before : List Mark) : Bool :=
  before.any fun next => overlaps next mark 0 && mark.hasLabel && !joins mark next

/-- Whether the label of a mark before this one would run into it. -/
def runsInto (level : Nat) (mark next : Mark) : Bool :=
  overlaps next mark (Text.byteLength next.label + 2) && next.hasLabel &&
    (mark.hasLabel || (next.stop ≤ mark.stop && level == 0))

/-- The levels of the labels of marks, from the last mark of a line to the first; level zero is
beside the carets. -/
def levels (level : Nat) : List Mark → List (Nat × Mark)
  | [] => []
  | mark :: before =>
    let here := if level = 0 ∧ isCovered mark before = true then 1 else level
    let next := if before.any (runsInto here mark) then here + 1 else here
    (here, mark) :: levels next before

/-- The level after the last label. -/
def lastLevel (level : Nat) : List Mark → Nat
  | [] => level
  | mark :: before =>
    let here := if level = 0 ∧ isCovered mark before = true then 1 else level
    let next := if before.any (runsInto here mark) then here + 1 else here
    max next (lastLevel next before)

/-! ### Lines -/

/-- The characters that are written in place of others. -/
def shownAs (c : Char) : List Char :=
  if c = '\t' then [' ', ' ', ' ', ' ']
  else
    let n := c.toNat
    if n = 0x200D ∨ n = 0x202A ∨ n = 0x202B ∨ n = 0x202C ∨ n = 0x202D ∨ n = 0x202E ∨ n = 0x2066 ∨
        n = 0x2067 ∨ n = 0x2068 ∨ n = 0x2069 then []
    else [c]

/-- A text as it is shown. -/
def shown (text : List Char) : List Char := text.flatMap shownAs

/-- The three dots where something is left out. -/
def dots : List Char := ['.', '.', '.']

/-- The number of a line, or blanks, and a bar. -/
def gutter (width : Nat) (number : Option Nat) : List Char :=
  match number with
  | some n =>
    let digits := (toString n).toList
    List.replicate (width - digits.length) ' ' ++ digits ++ [' ', '|']
  | none => List.replicate (width + 1) ' ' ++ ['|']

/-- The text of a line in a window. -/
def drawText (w : Window) (offset : Nat) (text : List Char) (row : List Char) : List Char :=
  let text := shown text
  let length := Text.byteLength text
  let code := (text.drop (w.leftOf length)).take (w.rightOf length - w.leftOf length)
  let row := Canvas.putRow offset code row
  let row := if w.cutsLeft then Canvas.putRow offset dots row else row
  if w.cutsRight length then Canvas.putRow (offset + code.length - 3) dots row else row

/-- The bar that leads from a mark down to its label. -/
def drawStem (column : Nat → Nat) (canvas : Canvas) (placed : Nat × Mark) : Canvas :=
  let (level, mark) := placed
  if 0 < level ∧ mark.hasLabel = true then
    canvas.putDown ((List.range (level + 1)).map (· + 1)) (column mark.start) ['|']
  else canvas

/-- The label of a mark. -/
def drawLabel (column : Nat → Nat) (canvas : Canvas) (placed : Nat × Mark) : Canvas :=
  let (level, mark) := placed
  if level = 0 then canvas.put 1 (column (mark.stop + 1)) mark.label
  else canvas.put (level + 2) (column mark.start) mark.label

/-- The carets below a mark. -/
def drawCarets (column : Nat → Nat) (canvas : Canvas) (mark : Mark) : Canvas :=
  canvas.put 1 (column mark.start) (List.replicate (mark.stop - mark.start) '^')

/-- The rows of a line. -/
def drawLine (w : Window) (numberWidth : Nat) (marked : MarkedLine) : Canvas :=
  let offset := numberWidth + 3
  let first := drawText w offset marked.line.text (gutter numberWidth (some marked.line.number))
  if marked.marks.isEmpty then [first]
  else
    let left := w.leftOf (Text.byteLength (shown marked.line.text))
    let column (n : Nat) : Nat := offset + n - left
    let backwards := marked.marks.mergeSort fun a b => b.start ≤ a.start
    let placed := levels 0 backwards
    let deepest := lastLevel 0 backwards
    let rows := if deepest = 0 then 1 else deepest + 2
    let canvas := first :: List.replicate rows (gutter numberWidth none)
    let canvas := placed.foldl (drawStem column) canvas
    let canvas := placed.foldl (drawLabel column) canvas
    marked.marks.foldl (drawCarets column) canvas

/-! ### Messages -/

/-- A row of a message: a line, or dots for lines that are left out. -/
inductive Row where
  /-- A line. -/
  | line (marked : MarkedLine)
  /-- Lines that are left out. -/
  | gap
  deriving DecidableEq, Repr

/-- The rows of lines without marks that stand between lines with marks. -/
def between (plain : List MarkedLine) : List Row :=
  if plain.length ≤ 3 then plain.map .line
  else (plain.take 1).map .line ++ [.gap] ++ (plain.drop (plain.length - 1)).map .line

/-- The rows of lines, after lines without marks that wait for a line with marks. -/
def foldAfter (started : Bool) (waiting : List MarkedLine) : List MarkedLine → List Row
  | [] => []
  | marked :: rest =>
    if marked.marks.isEmpty then foldAfter started (waiting ++ [marked]) rest
    else (if started then between waiting else []) ++ .line marked :: foldAfter true [] rest

/-- The rows of lines; those before the first mark and after the last one are left out. -/
def fold (lines : List MarkedLine) : List Row := foldAfter false [] lines

/-- The number of digits of the greatest line number of some rows. -/
def numberWidth (rows : List Row) : Nat :=
  match (rows.filterMap fun row =>
    match row with
    | .line marked => some marked.line.number
    | .gap => none).max? with
  | some n => (toString n).length
  | none => 0

/-- A row as it is drawn. -/
def drawRow (w : Window) (width : Nat) : Row → Canvas
  | .line marked => drawLine w width marked
  | .gap => [dots]

/-- The first line of a message. -/
def titleLine (title : String) : List Char :=
  if title = "" then "error".toList else "error: ".toList ++ title.toList

/-- The rows of a message. -/
def messageRows (title : String) (source : List Char) (remarks : List Remark) : Canvas :=
  let lines := markedLines source remarks
  let rows := fold lines
  let width := numberWidth rows
  let w := Window.ofLines lines
  let bar := gutter width none
  [titleLine title, bar] ++ rows.flatMap (drawRow w width) ++
    (match rows.getLast? with
      | some .gap => []
      | _ => [bar])

/-- The message about places of a source. -/
def annotate (title : String) (source : List Char) (remarks : List Remark) : String :=
  String.ofList (['\n'].intercalate (messageRows title source remarks))

end Rulebook.Snippet
