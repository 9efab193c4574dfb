/-
**Writing values as YAML.**

A list has a line with a hyphen for every item, an object a line for every key, and what belongs
to an item or a key stands further to the right; only the items of a list under a key stand where
the key stands.  An empty list or object is written between brackets.

Main definitions:

* `Rulebook.Yaml.hang` — a text whose lines but the first are moved to the right;
* `Rulebook.Yaml.write` — a value as a YAML text.
-/

import Rulebook.Yaml.Style

set_option autoImplicit false

namespace Rulebook.Yaml

/-! ### Lines -/

/-- A text whose lines but the first are moved to the right, if they are not empty. -/
def hang : List Char → List Char
  | [] => []
  | [c] => [c]
  | c :: d :: rest =>
    if isBreak c && !isBreak d then c :: (List.replicate indentation ' ' ++ hang (d :: rest))
    else c :: hang (d :: rest)

/-- A text with a line end, if it has none. -/
def ended (s : List Char) : List Char := if s.getLast?.any isBreak then s else s ++ ['\n']

/-! ### Values -/

/-- The greatest number of bytes of a key that stands before its colon in the same line. -/
def longestKey : Nat := 128

/-- Whether a key stands before its colon in the same line. -/
def isSimpleKey (key : String) : Bool :=
  decide (key.utf8ByteSize ≤ longestKey) && !key.toList.any isBreak

/-- Whether a value is written over lines of its own, and whether these are moved to the right
under a key. -/
def blockUnderKey? : Json → Option Bool
  | .array (_ :: _) => some false
  | .object (_ :: _) => some true
  | _ => none

/-- An entry of an object, given its value and the text of its value. -/
def writeEntry (key : String) (value : Json) (text : List Char) : List Char :=
  if isSimpleKey key then
    writtenText key.toList ++ ':' ::
      match blockUnderKey? value with
      | some true => hang ('\n' :: text)
      | some false => '\n' :: text
      | none => ' ' :: hang text
  else '?' :: ' ' :: (hang (ended (writtenText key.toList)) ++ ':' :: ' ' :: hang text)

mutual

/-- A value as a YAML text. -/
def write : Json → List Char
  | .null => ['n', 'u', 'l', 'l', '\n']
  | .bool b => (if b then ['t', 'r', 'u', 'e'] else ['f', 'a', 'l', 's', 'e']) ++ ['\n']
  | .number n => n.text ++ ['\n']
  | .string s => ended (writtenText s.toList)
  | .array [] => ['[', ']', '\n']
  | .array (item :: rest) => writeItems (item :: rest)
  | .object [] => ['{', '}', '\n']
  | .object (field :: rest) => writeFields (field :: rest)

/-- The items of a list. -/
def writeItems : List Json → List Char
  | [] => []
  | item :: rest => '-' :: ' ' :: (hang (write item) ++ writeItems rest)

/-- The entries of an object. -/
def writeFields : List (String × Json) → List Char
  | [] => []
  | (key, value) :: rest => writeEntry key value (write value) ++ writeFields rest

end

end Rulebook.Yaml
