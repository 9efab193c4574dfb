/-
**Writing structured values.**

The compact form has no white space; the indented form has a line for every item and field, two
spaces of indentation for each level, and nothing between the brackets of an empty list or object.

Main definitions:

* `Rulebook.Json.quoted` — a text between quotes, with the escapes it needs;
* `Rulebook.Json.compact`, `Rulebook.Json.indented` — the two forms.
-/

import Rulebook.Json.Numeral
import Rulebook.Text.Quoted

set_option autoImplicit false

namespace Rulebook.Json

/-! ### Texts -/

/-- A digit of base sixteen. -/
def hexDigit (n : Nat) : Char := (Nat.toDigits 16 n).head?.getD '0'

/-- A character inside quotes: control characters, the quote and the backslash are escaped. -/
def quotedChar (c : Char) : List Char :=
  if c = '\x22' then ['\\', '\x22']
  else if c = '\\' then ['\\', '\\']
  else if c = '\n' then ['\\', 'n']
  else if c = '\r' then ['\\', 'r']
  else if c = '\t' then ['\\', 't']
  else if c.toNat = 8 then ['\\', 'b']
  else if c.toNat = 12 then ['\\', 'f']
  else if c.toNat < 32 then ['\\', 'u', '0', '0', hexDigit (c.toNat / 16), hexDigit (c.toNat % 16)]
  else [c]

/-- A text between quotes. -/
def quoted (s : List Char) : List Char := '\x22' :: (s.flatMap quotedChar ++ ['\x22'])

/-! ### The compact form -/

mutual

/-- A value without white space. -/
def compact : Json → List Char
  | .null => ['n', 'u', 'l', 'l']
  | .bool b => if b then ['t', 'r', 'u', 'e'] else ['f', 'a', 'l', 's', 'e']
  | .number n => n.text
  | .string s => quoted s.toList
  | .array items => '[' :: (compactItems items ++ [']'])
  | .object fields => '{' :: (compactFields fields ++ ['}'])

/-- Items with commas between them. -/
def compactItems : List Json → List Char
  | [] => []
  | [item] => compact item
  | item :: rest => compact item ++ ',' :: compactItems rest

/-- Fields with commas between them. -/
def compactFields : List (String × Json) → List Char
  | [] => []
  | [(key, value)] => quoted key.toList ++ ':' :: compact value
  | (key, value) :: rest => quoted key.toList ++ ':' :: (compact value ++ ',' :: compactFields rest)

end

/-! ### The indented form -/

/-- A line feed and the indentation of a level. -/
def newLine (level : Nat) : List Char := '\n' :: List.replicate (2 * level) ' '

mutual

/-- A value at a level of indentation. -/
def indentedAt (level : Nat) : Json → List Char
  | .array [] => ['[', ']']
  | .array (item :: rest) => '[' :: (indentedItems (level + 1) (item :: rest) ++ newLine level ++ [']'])
  | .object [] => ['{', '}']
  | .object (field :: rest) =>
    '{' :: (indentedFields (level + 1) (field :: rest) ++ newLine level ++ ['}'])
  | .null => ['n', 'u', 'l', 'l']
  | .bool b => if b then ['t', 'r', 'u', 'e'] else ['f', 'a', 'l', 's', 'e']
  | .number n => n.text
  | .string s => quoted s.toList

/-- Items on lines of their own. -/
def indentedItems (level : Nat) : List Json → List Char
  | [] => []
  | [item] => newLine level ++ indentedAt level item
  | item :: rest => newLine level ++ indentedAt level item ++ ',' :: indentedItems level rest

/-- Fields on lines of their own. -/
def indentedFields (level : Nat) : List (String × Json) → List Char
  | [] => []
  | [(key, value)] => newLine level ++ quoted key.toList ++ ':' :: ' ' :: indentedAt level value
  | (key, value) :: rest =>
    newLine level ++ quoted key.toList ++ ':' :: ' ' :: (indentedAt level value ++
      ',' :: indentedFields level rest)

end

/-- A value over several lines. -/
def indented (value : Json) : List Char := indentedAt 0 value

end Rulebook.Json
