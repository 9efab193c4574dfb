/-
**Scalars of a YAML text.**

A scalar is written plainly, between quotes, or as a block of lines.  Where a plain or quoted
scalar goes over several lines, a single end of line between words counts as a space and further
ones are kept; in a block every end of line is kept, or folded in the same way.

Main definitions:

* `Rulebook.Yaml.readPlain?`, `readQuoted?`, `readBlock?` — the scalar at a cursor, and the cursor
  after it.
-/

import Rulebook.Number.Literal
import Rulebook.Yaml.Cursor

set_option autoImplicit false

namespace Rulebook.Yaml

/-! ### Gaps between words -/

/-- The white space between two words of a scalar. -/
structure Gap where
  /-- Spaces and tabs before the first end of line. -/
  spaces : List Char
  /-- Whether there was an end of line. -/
  broken : Bool
  /-- The first end of line. -/
  first : List Char
  /-- The further ends of lines. -/
  further : List Char

namespace Gap

/-- No white space. -/
def none : Gap := ⟨[], false, [], []⟩

/-- The gap after an escaped end of line, which leaves no trace. -/
def escaped : Gap := ⟨[], true, [], []⟩

/-- What a gap contributes to the scalar. -/
def text (gap : Gap) : List Char :=
  if gap.broken then
    if gap.first == ['\n'] then if gap.further.isEmpty then [' '] else gap.further
    else gap.first ++ gap.further
  else gap.spaces

end Gap

/-- The gap at a cursor, added to the one read so far, and the cursor after it.  A tab before the
column `indent` of a later line is refused. -/
def readGap? (indent : Nat) : Nat → Gap → Cursor → Option (Gap × Cursor)
  | 0, gap, c => some (gap, c)
  | steps + 1, gap, c =>
    match c.rest with
    | [] => some (gap, c)
    | x :: _ =>
      if isGap x then
        if gap.broken then
          if x == '\t' && decide (c.column < indent) then Option.none
          else readGap? indent steps gap (c.skip 1)
        else readGap? indent steps { gap with spaces := gap.spaces ++ [x] } (c.skip 1)
      else if isBreak x then
        if gap.broken then
          readGap? indent steps { gap with further := gap.further ++ c.lineBreak } c.skipLine
        else readGap? indent steps ⟨[], true, c.lineBreak, []⟩ c.skipLine
      else some (gap, c)

/-! ### Plain scalars -/

/-- The characters that begin and end lists and objects in a line, and the comma. -/
def isFlowIndicator (c : Char) : Bool :=
  c == ',' || c == '[' || c == ']' || c == '{' || c == '}'

/-- The word of a plain scalar at the beginning of a text. -/
def plainWord? (inFlow : Bool) : List Char → Option (List Char)
  | [] => some []
  | c :: rest =>
    if isSpace c then some []
    else if inFlow && c == ':' && (rest.head?.any fun n => isFlowIndicator n || n == '?') then none
    else if c == ':' && atSpace rest then some []
    else if inFlow && isFlowIndicator c then some []
    else (plainWord? inFlow rest).map (c :: ·)

/-- The rest of a plain scalar: its text, the gap after it, and the cursor. -/
def readPlainFrom? (inFlow : Bool) (indent : Nat) :
    Nat → List Char → Gap → Cursor → Option (List Char × Gap × Cursor)
  | 0, text, gap, c => some (text, gap, c)
  | steps + 1, text, gap, c =>
    if c.atDocumentMarker || c.rest.head? == some '#' then some (text, gap, c)
    else do
      let word ← plainWord? inFlow c.rest
      if word.isEmpty then some (text, gap, c)
      else
        let text := text ++ gap.text ++ word
        let c := c.skip word.length
        let (gap, c) ← readGap? indent (c.rest.length + 1) Gap.none c
        if c.rest.head?.isNone || (!gap.broken && gap.spaces.isEmpty) then some (text, gap, c)
        else if !inFlow && decide (c.column < indent) then some (text, gap, c)
        else readPlainFrom? inFlow indent steps text gap c

/-- The plain scalar at a cursor, whether an end of line follows it, and the cursor after it.
Outside of lists and objects in a line its later lines begin at the column `indent` or after. -/
def readPlain? (inFlow : Bool) (indent : Nat) (c : Cursor) : Option (List Char × Bool × Cursor) :=
  (readPlainFrom? inFlow indent (c.rest.length + 1) [] Gap.none c).map fun found =>
    (found.1, found.2.1.broken, found.2.2)

/-! ### Quoted scalars -/

/-- The character of an escape by number with the given count of digits, after its letter. -/
def numberedChar? (count : Nat) (s : List Char) : Option Char :=
  let digits := s.take count
  if digits.length < count then none
  else
    (Literal.natural? 16 digits).bind fun n =>
      if n.isValidChar then some (Char.ofNat n) else none

/-- The character of an escape after the backslash, and the length of the escape without it. -/
def escapedChar? : List Char → Option (Char × Nat)
  | [] => none
  | c :: rest =>
    let simple (n : Nat) : Option (Char × Nat) := some (Char.ofNat n, 1)
    if c = '0' then simple 0
    else if c = 'a' then simple 7
    else if c = 'b' then simple 8
    else if c = 't' ∨ c = '\t' then simple 9
    else if c = 'n' then simple 10
    else if c = 'v' then simple 11
    else if c = 'f' then simple 12
    else if c = 'r' then simple 13
    else if c = 'e' then simple 27
    else if c = ' ' ∨ c = '\x22' ∨ c = '/' ∨ c = '\\' then simple c.toNat
    else if c = 'N' then simple 0x85
    else if c = '_' then simple 0xA0
    else if c = 'L' then simple 0x2028
    else if c = 'P' then simple 0x2029
    else if c = 'x' then (numberedChar? 2 rest).map fun d => (d, 3)
    else if c = 'u' then (numberedChar? 4 rest).map fun d => (d, 5)
    else if c = 'U' then (numberedChar? 8 rest).map fun d => (d, 9)
    else none

/-- The characters of a quoted scalar up to white space or the closing quote, whether an escaped
end of line stopped them, and the cursor. -/
def readQuotedWord? (quote : Char) : Nat → List Char → Cursor → Option (List Char × Bool × Cursor)
  | 0, _, _ => none
  | steps + 1, text, c =>
    match c.rest with
    | [] => some (text, false, c)
    | x :: rest =>
      if isSpace x then some (text, false, c)
      else if x == quote then
        if quote == '\x27' && rest.head? == some quote then
          readQuotedWord? quote steps (text ++ [x]) (c.skip 2)
        else some (text, false, c)
      else if quote == '\x22' && x == '\\' then
        if rest.head?.any isBreak then some (text, true, (c.skip 1).skipLine)
        else do
          let (y, length) ← escapedChar? rest
          readQuotedWord? quote steps (text ++ [y]) (c.skip (1 + length))
      else readQuotedWord? quote steps (text ++ [x]) (c.skip 1)

/-- The rest of a quoted scalar after its opening quote. -/
def readQuotedFrom? (quote : Char) : Nat → List Char → Cursor → Option (List Char × Cursor)
  | 0, _, _ => none
  | steps + 1, text, c =>
    if c.atDocumentMarker || c.rest.isEmpty then none
    else do
      let (text, broken, c) ← readQuotedWord? quote (c.rest.length + 1) text c
      if c.rest.head? == some quote then some (text, c.skip 1)
      else
        let (gap, c) ← readGap? 0 (c.rest.length + 1) (if broken then Gap.escaped else Gap.none) c
        readQuotedFrom? quote steps (text ++ gap.text) c

/-- The quoted scalar at a cursor, and the cursor after it. -/
def readQuoted? (c : Cursor) : Option (List Char × Cursor) :=
  match c.rest with
  | [] => none
  | quote :: _ => readQuotedFrom? quote (c.rest.length + 1) [] (c.skip 1)

/-! ### Blocks of lines -/

/-- Which ends of lines at the end of a block are kept. -/
inductive Chomping where
  /-- The last one. -/
  | clip
  /-- None. -/
  | strip
  /-- All. -/
  | keep
  deriving DecidableEq, Repr

/-- The chomping indicator of a character. -/
def chomping? (c : Char) : Option Chomping :=
  if c = '+' then some .keep else if c = '-' then some .strip else none

/-- The width of an indentation indicator. -/
def width? (c : Char) : Option Nat :=
  if c.isDigit && c != '0' then some (c.toNat - 48) else none

/-- The indicators of a block after its first character: chomping, width and their length. -/
def readIndicators? (s : List Char) : Option (Chomping × Option Nat × Nat) :=
  match s with
  | [] => some (.clip, none, 0)
  | a :: rest =>
    match chomping? a with
    | some how =>
      match rest with
      | b :: _ =>
        if b == '0' then none
        else
          match width? b with
          | some w => some (how, some w, 2)
          | none => some (how, none, 1)
      | [] => some (how, none, 1)
    | none =>
      if a == '0' then none
      else
        match width? a with
        | some w =>
          match rest.head?.bind chomping? with
          | some how => some (how, some w, 2)
          | none => some (.clip, some w, 1)
        | none => some (.clip, none, 0)

/-- The empty lines of a block at a cursor: their ends, the greatest column of a line that was
reached, and the cursor at the first other line, after its indentation.  An indentation of zero
means that it is not known yet. -/
def readEmptyLines? (indent : Nat) :
    Nat → List Char → Nat → Cursor → Option (List Char × Nat × Cursor)
  | 0, _, _, _ => none
  | steps + 1, ends, greatest, c =>
    let spaces := (c.rest.takeWhile (· == ' ')).length
    let count := if indent = 0 then spaces else min spaces (indent - c.column)
    let c := c.skip count
    let greatest := max greatest c.column
    match c.rest with
    | x :: _ =>
      if x == '\t' && (indent == 0 || decide (c.column < indent)) then none
      else if isBreak x then
        readEmptyLines? indent steps (ends ++ c.lineBreak) greatest c.skipLine
      else some (ends, greatest, c)
    | [] => some (ends, greatest, c)

/-- The lines of a block: what is read so far, the end of its last line, the ends of empty lines
after it, and whether the last line began with white space. -/
structure BlockText where
  /-- The text without the end of its last line. -/
  text : List Char
  /-- The end of the last line. -/
  lineEnd : List Char
  /-- The ends of the empty lines after it. -/
  emptyEnds : List Char
  /-- Whether the last line began with a space or a tab. -/
  indented : Bool

/-- What stands between the text read so far and a further line. -/
def BlockText.separator (b : BlockText) (literal indented : Bool) : List Char :=
  if !literal && b.lineEnd == ['\n'] && !b.indented && !indented then
    if b.emptyEnds.isEmpty then [' '] else b.emptyEnds
  else b.lineEnd ++ b.emptyEnds

/-- The further lines of a block whose indentation is known. -/
def readBlockLines? (literal : Bool) (indent : Nat) :
    Nat → BlockText → Cursor → Option (BlockText × Cursor)
  | 0, _, _ => none
  | steps + 1, b, c =>
    if c.column = indent ∧ !c.rest.isEmpty then do
      let indented := c.rest.head?.any isGap
      let line := c.rest.takeWhile fun x => !isBreak x
      let text := b.text ++ b.separator literal indented ++ line
      let c := c.skip line.length
      let lineEnd := c.lineBreak
      let (ends, _, c) ← readEmptyLines? indent (c.rest.length + 2) [] 0 c.skipLine
      readBlockLines? literal indent steps ⟨text, lineEnd, ends, indented⟩ c
    else some (b, c)

/-- The text of a block after chomping. -/
def BlockText.chomped (b : BlockText) : Chomping → List Char
  | .strip => b.text
  | .clip => b.text ++ b.lineEnd
  | .keep => b.text ++ b.lineEnd ++ b.emptyEnds

/-- The block scalar at a cursor, and the cursor after it, where the lines around it are indented
by `parent`, which is `-1` outside of all lists and objects. -/
def readBlock? (parent : Int) (c : Cursor) : Option (List Char × Cursor) := do
  let literal := c.rest.head? == some '|'
  let c := c.skip 1
  let (how, width, length) ← readIndicators? c.rest
  let c := ((c.skip length).skipWhile isGap).skipComment
  if !atLineEnd c.rest then none
  else
    let c := c.skipLine
    let known := match width with
      | some w => if 0 ≤ parent then parent.toNat + w else w
      | none => 0
    let (ends, greatest, c) ← readEmptyLines? known (c.rest.length + 2) [] 0 c
    let indent := if known = 0 then max (max greatest (parent + 1).toNat) 1 else known
    let (b, c) ← readBlockLines? literal indent (c.rest.length + 1) ⟨[], [], ends, false⟩ c
    some (b.chomped how, c)

end Rulebook.Yaml
