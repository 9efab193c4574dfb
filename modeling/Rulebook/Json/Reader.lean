/-
**Reading structured values.**

A value is read from the whole of a text.  Of two fields with one name the later value stands, at
the place of the first.  Values may be nested at most 127 deep, and an escape of half a surrogate
pair is refused.

Main definitions:

* `Rulebook.Json.read?` — the value that a text holds, if it holds one.
-/

import Rulebook.Json.Numeral

set_option autoImplicit false

namespace Rulebook.Json

/-! ### White space and words -/

/-- The characters that may stand between the parts of a value. -/
def isSpace (c : Char) : Bool := c == ' ' || c == '\n' || c == '\t' || c == '\r'

/-- A text without the white space at its beginning. -/
def skipSpace (s : List Char) : List Char := s.dropWhile isSpace

/-! ### Texts -/

/-- The number that four digits in base sixteen stand for, and the rest. -/
def readUnit? : List Char → Option (Nat × List Char)
  | a :: b :: c :: d :: rest => (Literal.natural? 16 [a, b, c, d]).map fun n => (n, rest)
  | _ => none

/-- The character of an escape by number, after `\u`, and the rest.  A character beyond the first
plane is written as two escapes, and half of such a pair is refused. -/
def readNumbered? (s : List Char) : Option (Char × List Char) := do
  let (high, rest) ← readUnit? s
  if 0xD800 ≤ high ∧ high < 0xDC00 then
    match rest with
    | '\\' :: 'u' :: more =>
      let (low, final) ← readUnit? more
      if 0xDC00 ≤ low ∧ low < 0xE000 then
        some (Char.ofNat (0x10000 + (high - 0xD800) * 0x400 + (low - 0xDC00)), final)
      else none
    | _ => none
  else if 0xDC00 ≤ high ∧ high < 0xE000 then none
  else some (Char.ofNat high, rest)

/-- The character that a single letter stands for after a backslash. -/
def escapedChar? (c : Char) : Option Char :=
  if c = '\x22' ∨ c = '\\' ∨ c = '/' then some c
  else if c = 'b' then some '\x08'
  else if c = 'f' then some '\x0c'
  else if c = 'n' then some '\n'
  else if c = 'r' then some '\r'
  else if c = 't' then some '\t'
  else none

/-- The characters of a text up to its closing quote, and the rest.  The number of steps is bounded
by the first argument. -/
def readChars? : Nat → List Char → Option (List Char × List Char)
  | 0, _ => none
  | _ + 1, [] => none
  | _ + 1, '\x22' :: rest => some ([], rest)
  | steps + 1, '\\' :: 'u' :: rest => do
    let (c, after) ← readNumbered? rest
    let (more, final) ← readChars? steps after
    some (c :: more, final)
  | steps + 1, '\\' :: e :: rest => do
    let c ← escapedChar? e
    let (more, final) ← readChars? steps rest
    some (c :: more, final)
  | steps + 1, c :: rest =>
    if c = '\\' ∨ c.toNat < 32 then none
    else do
      let (more, final) ← readChars? steps rest
      some (c :: more, final)

/-- A text after its opening quote, and the rest. -/
def readString? (s : List Char) : Option (String × List Char) :=
  (readChars? (s.length + 1) s).map fun parts => (String.ofList parts.1, parts.2)

/-! ### Values -/

/-- The greatest depth of nesting, plus one. -/
def depthLimit : Nat := 128

mutual

/-- The value at the beginning of a text, and the rest.  The first argument bounds the number of
steps, the second the depth of nesting that is left. -/
def readValue? : Nat → Nat → List Char → Option (Json × List Char)
  | 0, _, _ => none
  | steps + 1, depth, s =>
    match skipSpace s with
    | 'n' :: 'u' :: 'l' :: 'l' :: rest => some (.null, rest)
    | 't' :: 'r' :: 'u' :: 'e' :: rest => some (.bool true, rest)
    | 'f' :: 'a' :: 'l' :: 's' :: 'e' :: rest => some (.bool false, rest)
    | '\x22' :: rest => (readString? rest).map fun parts => (.string parts.1, parts.2)
    | '[' :: rest =>
      if depth ≤ 1 then none
      else
        match skipSpace rest with
        | ']' :: final => some (.array [], final)
        | inner => (readItems? steps (depth - 1) inner).map fun parts => (.array parts.1, parts.2)
    | '{' :: rest =>
      if depth ≤ 1 then none
      else
        match skipSpace rest with
        | '}' :: final => some (.object [], final)
        | inner =>
          (readFields? steps (depth - 1) [] inner).map fun parts => (.object parts.1, parts.2)
    | other => (Number.read? other).map fun parts => (.number parts.1, parts.2)

/-- The items of a list from the next one on, up to the closing bracket, and the rest. -/
def readItems? : Nat → Nat → List Char → Option (List Json × List Char)
  | 0, _, _ => none
  | steps + 1, depth, s => do
    let (item, after) ← readValue? steps depth s
    match skipSpace after with
    | ',' :: rest =>
      let (more, final) ← readItems? steps depth rest
      some (item :: more, final)
    | ']' :: final => some ([item], final)
    | _ => none

/-- The fields of an object from the next one on, added to those already read, and the rest. -/
def readFields? : Nat → Nat → List (String × Json) → List Char →
    Option (List (String × Json) × List Char)
  | 0, _, _, _ => none
  | steps + 1, depth, read, s =>
    match skipSpace s with
    | '\x22' :: afterQuote => do
      let (key, afterKey) ← readString? afterQuote
      match skipSpace afterKey with
      | ':' :: afterColon =>
        let (value, after) ← readValue? steps depth afterColon
        let fields := Fields.set key value read
        match skipSpace after with
        | ',' :: rest => readFields? steps depth fields rest
        | '}' :: final => some (fields, final)
        | _ => none
      | _ => none
    | _ => none

end

/-- The value that a text holds, if the text holds one value and nothing else. -/
def read? (s : List Char) : Option Json :=
  match readValue? (2 * s.length + 2) depthLimit s with
  | some (value, rest) => if (skipSpace rest).isEmpty then some value else none
  | none => none

end Rulebook.Json
