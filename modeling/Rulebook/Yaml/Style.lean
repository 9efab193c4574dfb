/-
**How scalars are written.**

A text is written plainly where that reads back as the same text, else between single quotes, else
between double quotes; a text of several lines is written line by line if it can be.

Main definitions:

* `Rulebook.Yaml.canBePlain`, `Rulebook.Yaml.canBeSingleQuoted`, `Rulebook.Yaml.canBeLiteral` —
  which texts a style can hold;
* `Rulebook.Yaml.Style.ofText` — the style of a text;
* `Rulebook.Yaml.writtenText` — a text in its style.
-/

import Rulebook.Yaml.Value

set_option autoImplicit false

namespace Rulebook.Yaml

/-! ### What stands in a text -/

/-- The characters that stand for themselves in every style. -/
def isVerbatim (c : Char) : Bool :=
  isReadable c && !isOrderMark c && c != '\t' && c != '\r' && c.toNat != 0x85

/-- Whether a character of one kind is followed by a character of another. -/
def hasPair (p q : Char → Bool) (s : List Char) : Bool :=
  (s.zip (s.drop 1)).any fun pair => p pair.1 && q pair.2

/-- Whether a colon is followed by a space, a line end or the end of the text. -/
def hasKeyMark : List Char → Bool
  | [] => false
  | c :: rest => (c == ':' && atSpace rest) || hasKeyMark rest

/-- The characters with which no plain text begins. -/
def indicators : List Char :=
  ['#', ',', '[', ']', '{', '}', '&', '*', '!', '|', '>', '\x27', '\x22', '%', '@', '\x60']

/-- Whether the beginning of a text has a meaning of its own. -/
def beginsWithMark (s : List Char) : Bool :=
  ['-', '-', '-'].isPrefixOf s || ['.', '.', '.'].isPrefixOf s ||
    match s with
    | [] => false
    | c :: rest => indicators.contains c || ((c == '?' || c == '-') && atSpace rest)

/-- Whether a text has marks that a reader would not take for text. -/
def hasMark (s : List Char) : Bool :=
  beginsWithMark s || hasKeyMark s || hasPair isSpace (· == '#') s

/-- Whether the text begins or ends with a space or a line end. -/
def hasLooseEnd (s : List Char) : Bool :=
  let isLoose (c : Char) : Bool := c == ' ' || isBreak c
  s.head?.any isLoose || s.getLast?.any isLoose

/-! ### Styles -/

/-- Whether a text can stand between single quotes. -/
def canBeSingleQuoted (s : List Char) : Bool :=
  s.all isVerbatim && !hasPair (· == ' ') isBreak s && !hasPair isBreak (· == ' ') s

/-- Whether a text can stand without quotes in one line. -/
def canBePlain (s : List Char) : Bool :=
  s.all isVerbatim && !s.any isBreak && !hasLooseEnd s && !hasMark s

/-- Whether a text can be written line by line. -/
def canBeLiteral (s : List Char) : Bool :=
  !s.isEmpty && s.all isVerbatim && !hasPair (· == ' ') isBreak s && s.getLast? != some ' '

/-- Whether a text without quotes would read back as something else than a text, or looks like a
number with a superfluous zero. -/
def isAmbiguous (s : List Char) : Bool :=
  isPadded s ||
    match plain? s with
    | some (.text _) => false
    | _ => true

/-- The styles of a scalar. -/
inductive Style where
  /-- Without quotes. -/
  | plain
  /-- Between single quotes. -/
  | singleQuoted
  /-- Between double quotes, with escapes. -/
  | doubleQuoted
  /-- Line by line. -/
  | literal
  deriving DecidableEq, Repr

/-- The style of a text. -/
def Style.ofText (s : List Char) : Style :=
  if s.contains '\n' then if canBeLiteral s then .literal else .doubleQuoted
  else if canBePlain s && !isAmbiguous s then .plain
  else if canBeSingleQuoted s then .singleQuoted
  else .doubleQuoted

/-! ### Quotes -/

/-- The digits of a number in base sixteen, in upper case and of a given width. -/
def paddedHex (width n : Nat) : List Char :=
  let digits := (Nat.toDigits 16 n).map Char.toUpper
  List.replicate (width - digits.length) '0' ++ digits

/-- The escapes that have a letter of their own, by the number of the character. -/
def letterEscapes : List (Nat × Char) :=
  [(0, '0'), (7, 'a'), (8, 'b'), (9, 't'), (10, 'n'), (11, 'v'), (12, 'f'), (13, 'r'), (27, 'e'),
    (0x22, '\x22'), (0x5C, '\\'), (0x85, 'N'), (0x2028, 'L'), (0x2029, 'P')]

/-- A character between double quotes. -/
def doubleQuotedChar (c : Char) : List Char :=
  match letterEscapes.lookup c.toNat with
  | some letter => ['\\', letter]
  | none =>
    if isVerbatim c then [c]
    else if c.toNat ≤ 0xFF then '\\' :: 'x' :: paddedHex 2 c.toNat
    else if c.toNat ≤ 0xFFFF then '\\' :: 'u' :: paddedHex 4 c.toNat
    else '\\' :: 'U' :: paddedHex 8 c.toNat

/-- A text between double quotes. -/
def doubleQuoted (s : List Char) : List Char :=
  '\x22' :: (s.flatMap doubleQuotedChar ++ ['\x22'])

/-- A character between single quotes: the single quote is written twice. -/
def singleQuotedChar (c : Char) : List Char := if c = '\x27' then ['\x27', '\x27'] else [c]

/-- A text between single quotes. -/
def singleQuoted (s : List Char) : List Char :=
  '\x27' :: (s.flatMap singleQuotedChar ++ ['\x27'])

/-! ### Lines -/

/-- How many spaces further to the right the parts of a value stand. -/
def indentation : Nat := 2

/-- The mark of the indentation, which is needed where the first line begins with a space or is
empty. -/
def indentationMark (s : List Char) : List Char :=
  match s with
  | [] => []
  | c :: _ => if c = ' ' ∨ isBreak c then Nat.toDigits 10 indentation else []

/-- The mark of the end: whether the last line has no end, or there are empty lines after it. -/
def endMark (s : List Char) : List Char :=
  match s.reverse with
  | [] => ['-']
  | [last] => if isBreak last then ['+'] else ['-']
  | last :: before :: _ =>
    if !isBreak last then ['-'] else if isBreak before then ['+'] else []

/-- A text line by line. -/
def literal (s : List Char) : List Char := '|' :: (indentationMark s ++ endMark s ++ '\n' :: s)

/-- A text in its style. -/
def writtenText (s : List Char) : List Char :=
  match Style.ofText s with
  | .plain => s
  | .singleQuoted => singleQuoted s
  | .doubleQuoted => doubleQuoted s
  | .literal => literal s

end Rulebook.Yaml
