/-
**Number literals.**

The texts that count as numbers where a template or a setting is read: indices into a list, and
floating-point literals with an optional sign, fraction and exponent or one of the words for
infinity and for "not a number".

Main definitions:

* `Rulebook.Literal.natural?` — a run of decimal digits;
* `Rulebook.Literal.index?` — an index below `2 ^ 64`, with an optional plus sign;
* `Rulebook.Literal.float?` — a floating-point literal.
-/

import Rulebook.Text.Letters
import Rulebook.Number.Binary64

set_option autoImplicit false

namespace Rulebook.Literal

/-! ### Digits -/

/-- The value of a digit in a base up to sixteen. -/
def digitValue? (base : Nat) (c : Char) : Option Nat :=
  let n := c.toNat
  let value :=
    if c.isDigit then some (n - 48)
    else if 97 ≤ n && n ≤ 102 then some (n - 87)
    else if 65 ≤ n && n ≤ 70 then some (n - 55)
    else none
  value.filter (· < base)

/-- The number that a run of digits stands for, continued from `acc`; none if a character is not a
digit of the base. -/
def digits? (base acc : Nat) : List Char → Option Nat
  | [] => some acc
  | c :: rest => (digitValue? base c).bind fun d => digits? base (acc * base + d) rest

/-- The number that a nonempty run of digits in the given base stands for. -/
def natural? (base : Nat) (s : List Char) : Option Nat :=
  if s.isEmpty then none else digits? base 0 s

/-- An index: digits, perhaps after a plus sign, for a number below `2 ^ 64`. -/
def index? (s : List Char) : Option Nat :=
  let unsigned := match s with
    | '+' :: rest => rest
    | _ => s
  (natural? 10 unsigned).filter (· < Nat.pow 2 64)

/-! ### Floating-point literals -/

/-- What a floating-point literal stands for. -/
inductive Float where
  /-- A word for infinity. -/
  | infinity (negative : Bool)
  /-- The word for "not a number". -/
  | notANumber
  /-- The decimal `digits · 10 ^ exponent` with a sign. -/
  | decimal (negative : Bool) (digits : Nat) (exponent : Int)
  deriving DecidableEq, Repr

/-- A sign at the beginning, and the rest. -/
def splitSign : List Char → Bool × List Char
  | '+' :: rest => (false, rest)
  | '-' :: rest => (true, rest)
  | s => (false, s)

/-- The exponent at the end of a literal: nothing, or the letter `e` and a signed integer. -/
def exponent? : List Char → Option Int
  | [] => some 0
  | c :: rest =>
    if c = 'e' ∨ c = 'E' then
      let signed := splitSign rest
      (natural? 10 signed.2).map fun n => if signed.1 then -(n : Int) else n
    else none

/-- The literal of a decimal, after its sign. -/
def unsignedFloat? (negative : Bool) (s : List Char) : Option Float :=
  let whole := s.takeWhile Char.isDigit
  let afterWhole := s.dropWhile Char.isDigit
  let fractionAndRest := match afterWhole with
    | '.' :: rest => (rest.takeWhile Char.isDigit, rest.dropWhile Char.isDigit)
    | rest => ([], rest)
  let fraction := fractionAndRest.1
  if whole.isEmpty && fraction.isEmpty then none
  else do
    let digits ← natural? 10 (whole ++ fraction)
    let power ← exponent? fractionAndRest.2
    some (.decimal negative digits (power - fraction.length))

/-- A floating-point literal. -/
def float? (s : List Char) : Option Float :=
  let signed := splitSign s
  let word := Text.toLower signed.2
  if word = "inf".toList ∨ word = "infinity".toList then some (.infinity signed.1)
  else if word = "nan".toList then some .notANumber
  else unsignedFloat? signed.1 signed.2

/-- The finite number that a literal stands for; none for the words and beyond the greatest
number. -/
def Float.finite? : Float → Option Binary64
  | .decimal negative digits exponent => Binary64.ofDecimal negative digits exponent
  | _ => none

end Rulebook.Literal
