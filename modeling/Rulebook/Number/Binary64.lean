/-
**Binary floating-point numbers.**

A number with a fraction or an exponent is kept as the nearest number of the form
`± significand · 2 ^ exponent` with a significand below `2 ^ 53`.  All arithmetic is on natural
numbers, so the rounding is exact: to the nearest, and of two nearest to the even significand.

Main definitions:

* `Rulebook.Binary64` — finite numbers of double precision; zero has a sign;
* `Rulebook.Binary64.ofRatio`, `Rulebook.Binary64.ofDecimal` — the nearest number to a quotient of
  natural numbers, and to `digits · 10 ^ exponent`; none if it is too large;
* `Rulebook.Binary64.ratio` — the magnitude as a quotient of natural numbers.
-/

set_option autoImplicit false

namespace Rulebook

/-- A finite number of double precision: `significand · 2 ^ exponent` with a sign.  The significand
lies below `2 ^ 53`, and it is at least `2 ^ 52` unless the exponent is the least one, `-1074`. -/
structure Binary64 where
  /-- Whether the number, which may be zero, carries a minus sign. -/
  negative : Bool
  /-- The significand. -/
  significand : Nat
  /-- The exponent of two. -/
  exponent : Int
  deriving DecidableEq, Repr

namespace Binary64

/-- The least exponent. -/
def leastExponent : Int := -1074

/-- The greatest exponent. -/
def greatestExponent : Int := 971

/-- Zero with a sign. -/
def zero (negative : Bool) : Binary64 := ⟨negative, 0, leastExponent⟩

/-- Whether a number is zero of either sign. -/
def isZero (x : Binary64) : Bool := x.significand == 0

/-! ### Rounding -/

/-- The natural number nearest to `num / den`; of two, the even one. -/
def roundHalfEven (num den : Nat) : Nat :=
  let quotient := num / den
  let rest := num % den
  if 2 * rest < den then quotient
  else if den < 2 * rest then quotient + 1
  else if quotient % 2 = 0 then quotient
  else quotient + 1

/-- The quotient `num / (den · 2 ^ e)`, as a numerator and a denominator. -/
def scaled (num den : Nat) (e : Int) : Nat × Nat :=
  if 0 ≤ e then (num, den * Nat.pow 2 e.toNat) else (num * Nat.pow 2 (-e).toNat, den)

/-- The nearest number to `num / den`, or none if that is beyond the greatest number. -/
def ofRatio (negative : Bool) (num den : Nat) : Option Binary64 :=
  if num = 0 then some (zero negative)
  else
    let guess : Int := (num.log2 : Int) - den.log2 - 52
    let atGuess := scaled num den guess
    let fitting := if atGuess.1 < Nat.pow 2 52 * atGuess.2 then guess - 1 else guess
    let e := max fitting leastExponent
    let quotient := scaled num den e
    let m := roundHalfEven quotient.1 quotient.2
    let m' := if m = Nat.pow 2 53 then Nat.pow 2 52 else m
    let e' := if m = Nat.pow 2 53 then e + 1 else e
    if greatestExponent < e' then none else some ⟨negative, m', e'⟩

/-- The magnitude of a number as a numerator and a denominator. -/
def ratio (x : Binary64) : Nat × Nat :=
  if 0 ≤ x.exponent then (x.significand * Nat.pow 2 x.exponent.toNat, 1)
  else (x.significand, Nat.pow 2 (-x.exponent).toNat)

/-- The quotient `digits · 10 ^ exponent`, as a numerator and a denominator. -/
def decimalRatio (digits : Nat) (exponent : Int) : Nat × Nat :=
  if 0 ≤ exponent then (digits * Nat.pow 10 exponent.toNat, 1) else (digits, Nat.pow 10 (-exponent).toNat)

/-- The nearest number to `digits · 10 ^ exponent`, or none if that is beyond the greatest number.
The two tests on the order of magnitude keep the powers of ten small. -/
def ofDecimal (negative : Bool) (digits : Nat) (exponent : Int) : Option Binary64 :=
  let order : Int := exponent + (Nat.toDigits 10 digits).length
  if digits = 0 then some (zero negative)
  else if 310 < order then none
  else if order < -330 then some (zero negative)
  else
    let quotient := decimalRatio digits exponent
    ofRatio negative quotient.1 quotient.2

/-- The nearest number to a product, with the given sign. -/
def mul (x y : Binary64) (negative : Bool) : Option Binary64 :=
  ofRatio negative (x.ratio.1 * y.ratio.1) (x.ratio.2 * y.ratio.2)

/-- The nearest number to a quotient, with the given sign; the divisor is not zero. -/
def div (x y : Binary64) (negative : Bool) : Option Binary64 :=
  ofRatio negative (x.ratio.1 * y.ratio.2) (x.ratio.2 * y.ratio.1)

end Binary64

end Rulebook
