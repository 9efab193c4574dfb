/-
**Places in a YAML text.**

A YAML text is read from left to right.  A cursor holds what is left of it and the place reached:
the number of characters before it, its line and its column.

Main definitions:

* `Rulebook.Yaml.isBreak`, `Rulebook.Yaml.isGap` — the characters that end a line, and the space
  and the tab;
* `Rulebook.Yaml.isReadable` — the characters that may stand in a text at all;
* `Rulebook.Yaml.Cursor` — cursors, with `skip` and `skipLine`.
-/

set_option autoImplicit false

namespace Rulebook.Yaml

/-! ### Characters -/

/-- The characters that end a line. -/
def isBreak (c : Char) : Bool :=
  c == '\n' || c == '\r' || c.toNat == 0x85 || c.toNat == 0x2028 || c.toNat == 0x2029

/-- The space and the tab. -/
def isGap (c : Char) : Bool := c == ' ' || c == '\t'

/-- The space, the tab and the characters that end a line. -/
def isSpace (c : Char) : Bool := isGap c || isBreak c

/-- Whether a text is at its end, at a space or at the end of a line. -/
def atSpace : List Char → Bool
  | [] => true
  | c :: _ => isSpace c

/-- Whether a text is at its end or at the end of a line. -/
def atLineEnd : List Char → Bool
  | [] => true
  | c :: _ => isBreak c

/-- The characters that may stand in a text: no control characters but the tab and the line ends,
and none of the last two code points of the first plane. -/
def isReadable (c : Char) : Bool :=
  let n := c.toNat
  n == 9 || n == 10 || n == 13 || (0x20 ≤ n && n ≤ 0x7E) || n == 0x85 ||
    (0xA0 ≤ n && n ≤ 0xFFFD) || 0x10000 ≤ n

/-- The byte order mark. -/
def isOrderMark (c : Char) : Bool := c.toNat == 0xFEFF

/-- The characters of names of anchors, tags and directives. -/
def isNameChar (c : Char) : Bool := c.isAlphanum || c == '_' || c == '-'

/-! ### Cursors -/

/-- What is left of a text, and the place reached. -/
structure Cursor where
  /-- What is left. -/
  rest : List Char
  /-- The number of characters before the place. -/
  index : Nat
  /-- The number of lines before the line of the place. -/
  line : Nat
  /-- The number of characters before the place in its line. -/
  column : Nat
  deriving Repr

namespace Cursor

/-- A number of characters further on in the same line. -/
def skip (c : Cursor) (count : Nat) : Cursor :=
  ⟨c.rest.drop count, c.index + count, c.line, c.column + count⟩

/-- The beginning of a text, after a byte order mark, which takes a column of its line. -/
def start (text : List Char) : Cursor :=
  Cursor.skip ⟨text, 0, 0, 0⟩ (if text.head?.any isOrderMark then 1 else 0)

/-- After the end of line at the cursor. -/
def skipLine (c : Cursor) : Cursor :=
  match c.rest with
  | '\r' :: '\n' :: rest => ⟨rest, c.index + 2, c.line + 1, 0⟩
  | _ :: rest => ⟨rest, c.index + 1, c.line + 1, 0⟩
  | [] => c

/-- The end of line at the cursor as it stands in a scalar: a line feed for most of them. -/
def lineBreak (c : Cursor) : List Char :=
  match c.rest with
  | b :: _ => if b.toNat == 0x2028 || b.toNat == 0x2029 then [b] else ['\n']
  | [] => []

/-- After the characters at the cursor that satisfy `p`, none of which ends a line. -/
def skipWhile (c : Cursor) (p : Char → Bool) : Cursor := c.skip (c.rest.takeWhile p).length

/-- At the end of the line, after a comment if there is one. -/
def skipComment (c : Cursor) : Cursor :=
  match c.rest with
  | '#' :: _ => c.skipWhile fun x => !isBreak x
  | _ => c

/-- Whether the text at the cursor begins with a marker of the beginning or end of a document, at
the beginning of a line. -/
def atDocumentMarker (c : Cursor) : Bool :=
  c.column == 0 &&
    match c.rest with
    | '-' :: '-' :: '-' :: rest => atSpace rest
    | '.' :: '.' :: '.' :: rest => atSpace rest
    | _ => false

end Cursor

end Rulebook.Yaml
