/-
**Quoted texts.**

Messages show paths and patterns between double quotes.  A double quote, a backslash, the usual
control characters, everything a reader could not see and every mark that would join the character
before it are written as escapes, so that the quoted form is one line and shows every character.

Main definitions:

* `Rulebook.Text.quote` — a text between quotes; a single quote stays as it is;
* `Rulebook.Text.quotePath` — a path between quotes; here a single quote is escaped too.
-/

import Rulebook.Text.Visible

set_option autoImplicit false

namespace Rulebook.Text

/-- The digits of a number in base sixteen, in lower case. -/
def hexDigits (n : Nat) : List Char := Nat.toDigits 16 n

/-- A character by its number. -/
def numberEscape (c : Char) : List Char :=
  ['\\', 'u', '{'] ++ hexDigits c.toNat ++ ['}']

/-- The escape of a character that has one between any two quotes. -/
def commonEscape? (c : Char) : Option (List Char) :=
  if c = '\n' then some ['\\', 'n']
  else if c = '\r' then some ['\\', 'r']
  else if c = '\t' then some ['\\', 't']
  else if c.toNat = 0 then some ['\\', '0']
  else if c = '\x22' then some ['\\', '\x22']
  else if c = '\\' then some ['\\', '\\']
  else if isHidden c || isExtender c then some (numberEscape c)
  else none

/-- A character as it stands inside quotes. -/
def quotedChar (c : Char) : List Char := (commonEscape? c).getD [c]

/-- A text between double quotes. -/
def quote (s : List Char) : List Char := '\x22' :: (s.flatMap quotedChar ++ ['\x22'])

/-- A character as it stands in a quoted path. -/
def pathChar (c : Char) : List Char := if c = '\x27' then ['\\', '\x27'] else quotedChar c

/-- A path between double quotes. -/
def quotePath (s : List Char) : List Char := '\x22' :: (s.flatMap pathChar ++ ['\x22'])

end Rulebook.Text
