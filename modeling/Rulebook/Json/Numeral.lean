/-
**Numerals of structured values.**

A numeral without fraction and exponent is an integer if it fits into 64 bits, with or without a
sign; every other numeral is a floating-point number.  The floating-point value is computed from
the leading digits, as many as fit into 64 bits, by one multiplication or division by a power of
ten; minus zero is a floating-point number.

Main definitions:

* `Rulebook.Json.Number.read?` — the numeral at the beginning of a text, and the rest;
* `Rulebook.Json.Number.text` — the text of a number.
-/

import Rulebook.Json.Basic
import Rulebook.Number.Literal
import Rulebook.Number.Shortest

set_option autoImplicit false

namespace Rulebook.Json.Number

/-! ### Leading digits -/

/-- The greatest integer of 64 bits. -/
def wordLimit : Nat := Nat.pow 2 64 - 1

/-- The leading digits of a run that fit into 64 bits after `acc`, and the number of digits after
them. -/
def leading (acc : Nat) : List Char → Nat × Nat
  | [] => (acc, 0)
  | c :: rest =>
    let next := acc * 10 + (c.toNat - 48)
    if wordLimit < next then (acc, rest.length + 1) else leading next rest

/-! ### Powers of ten -/

/-- The greatest power of ten that a single step divides or multiplies by. -/
def powerLimit : Nat := 308

/-- The number nearest to a power of ten. -/
def powerOfTen (n : Nat) : Binary64 := (Binary64.ofRatio false (Nat.pow 10 n) 1).getD (.zero false)

/-- A number divided by `10 ^ n`, in steps of at most `10 ^ 308`. -/
def divideByPower (x : Binary64) (n : Nat) : Option Binary64 :=
  if n ≤ powerLimit then x.div (powerOfTen n) x.negative
  else if x.isZero then some x
  else (x.div (powerOfTen powerLimit) x.negative).bind fun y => divideByPower y (n - powerLimit)
termination_by n
decreasing_by simp only [powerLimit] at *; omega

/-- A number times `10 ^ e`; none if the result is too large. -/
def scaleByPower (x : Binary64) (e : Int) : Option Binary64 :=
  if e < 0 then divideByPower x (-e).toNat
  else if e.toNat ≤ powerLimit then x.mul (powerOfTen e.toNat) x.negative
  else if x.isZero then some x
  else none

/-- The floating-point number of a numeral with the given sign, leading digits and exponent. -/
def ofParts (negative : Bool) (digits : Nat) (e : Int) : Option Json.Number := do
  let whole ← Binary64.ofRatio negative digits 1
  let value ← scaleByPower whole e
  some (.float value)

/-! ### Reading -/

/-- The number of an integer numeral. -/
def ofInteger (negative : Bool) (run : List Char) : Option Json.Number :=
  let lead := leading 0 run
  if lead.2 ≠ 0 then ofParts negative lead.1 lead.2
  else if !negative then some (.int lead.1)
  else if lead.1 = 0 ∨ Nat.pow 2 63 < lead.1 then ofParts true lead.1 0
  else some (.int (-lead.1))

/-- The exponent of a numeral at the beginning of a text, its sign and its digits, and the rest;
none if the letter is not followed by digits. -/
def readExponent? : List Char → Option (Bool × Nat × List Char)
  | [] => some (false, 0, [])
  | c :: rest =>
    if c = 'e' ∨ c = 'E' then
      let signed := Literal.splitSign rest
      let run := signed.2.takeWhile Char.isDigit
      (Literal.natural? 10 run).map fun n => (signed.1, n, signed.2.dropWhile Char.isDigit)
    else some (false, 0, c :: rest)

/-- The number of a numeral with a fraction or an exponent.  An exponent of ten that does not fit
into 32 bits makes the number zero, or too large. -/
def ofFloating (negative : Bool) (run fraction : List Char) (negativeExponent : Bool) (e : Nat) :
    Option Json.Number :=
  let lead := leading 0 run
  let more := leading lead.1 fraction
  let shift : Int := lead.2 - ((fraction.length - more.2 : Nat) : Int)
  if e < Nat.pow 2 31 then ofParts negative more.1 (if negativeExponent then shift - e else shift + e)
  else if more.1 ≠ 0 ∧ !negativeExponent then none
  else some (.float (.zero negative))

/-- The digits of the integer part at the beginning of a text: a zero alone, or digits that do not
begin with a zero. -/
def readWhole? (s : List Char) : Option (List Char × List Char) :=
  match s.takeWhile Char.isDigit with
  | [] => none
  | '0' :: _ :: _ => none
  | run => some (run, s.dropWhile Char.isDigit)

/-- The numeral at the beginning of a text, after its sign, and the rest. -/
def readUnsigned? (negative : Bool) (s : List Char) : Option (Json.Number × List Char) := do
  let (run, rest) ← readWhole? s
  match rest with
  | '.' :: after =>
    let fraction := after.takeWhile Char.isDigit
    if fraction.isEmpty then none
    else
      let (negativeExponent, e, final) ← readExponent? (after.dropWhile Char.isDigit)
      let number ← ofFloating negative run fraction negativeExponent e
      some (number, final)
  | c :: _ =>
    if c = 'e' ∨ c = 'E' then
      let (negativeExponent, e, final) ← readExponent? rest
      let number ← ofFloating negative run [] negativeExponent e
      some (number, final)
    else (ofInteger negative run).map fun number => (number, rest)
  | [] => (ofInteger negative run).map fun number => (number, [])

/-- The numeral at the beginning of a text, and the rest. -/
def read? : List Char → Option (Json.Number × List Char)
  | '-' :: rest => readUnsigned? true rest
  | s => readUnsigned? false s

/-! ### Writing -/

/-- The text of an integer. -/
def integerText (n : Int) : List Char :=
  match n with
  | .ofNat k => Nat.toDigits 10 k
  | .negSucc k => '-' :: Nat.toDigits 10 (k + 1)

/-- In a structured value a positive exponent carries a plus sign. -/
def style : Binary64.Style := ⟨true⟩

/-- The text of a number. -/
def text : Json.Number → List Char
  | .int n => integerText n
  | .float x => x.text style

/-- Whether a number is zero, of either sign. -/
def isZero : Json.Number → Bool
  | .int n => n == 0
  | .float x => x.isZero

end Rulebook.Json.Number
