/-
**The shortest decimal form of a number.**

A floating-point number is written with the fewest decimal digits that read back as the same
number.  For each count of digits the two neighbours of the number on the grid of decimals of that
length are tried; the first grid with a neighbour that reads back wins, and of two such neighbours
the nearer one.

Main definitions:

* `Rulebook.Binary64.shortest` — the digits and the exponent of ten;
* `Rulebook.Binary64.layout` — how digits and exponent are written: positionally from `1e-5` up to
  below `1e16`, with `.0` when there is no fraction, and with an exponent otherwise;
* `Rulebook.Binary64.text` — the number as text, in the style of a format.
-/

import Rulebook.Number.Binary64

set_option autoImplicit false

namespace Rulebook.Binary64

/-! ### Digits -/

/-- The order of magnitude of `num / den`: the greatest `p` with `10 ^ p ≤ num / den`.  The search
starts from an estimate that is at most a few units off. -/
def decimalOrder (num den : Nat) : Int :=
  let estimate : Int := ((num.log2 : Int) - den.log2) * 30103 / 100000 + 2
  let reaches (p : Int) : Bool :=
    if 0 ≤ p then decide (den * Nat.pow 10 p.toNat ≤ num) else decide (den ≤ num * Nat.pow 10 (-p).toNat)
  ([0, 1, 2, 3, 4].map fun (k : Nat) => estimate - k).find? reaches |>.getD (estimate - 5)

/-- The better of the two decimals `lower · 10 ^ e` and `(lower + 1) · 10 ^ e` next to `num / den`
that read back as `x`. -/
def nearestReading (x : Binary64) (num den lower : Nat) (e : Int) : Option Nat :=
  let reads (digits : Nat) : Bool := ofDecimal x.negative digits e == some x
  match reads lower, reads (lower + 1) with
  | true, false => some lower
  | false, true => some (lower + 1)
  | false, false => none
  | true, true =>
    let unit := decimalRatio 1 e
    let twice := 2 * num * unit.2
    let middle := (2 * lower + 1) * unit.1 * den
    if twice < middle then some lower
    else if middle < twice then some (lower + 1)
    else if lower % 2 = 0 then some lower
    else some (lower + 1)

/-- A decimal without a zero at the end of its digits.  One step is enough: a longer run of zeros
would have been met on a coarser grid. -/
def dropZero (digits : Nat) (e : Int) : Nat × Int :=
  if digits % 10 = 0 then (digits / 10, e + 1) else (digits, e)

/-- The digits of the shortest decimal that reads back, and its exponent of ten. -/
def shortest (x : Binary64) : Nat × Int :=
  let value := x.ratio
  let order := decimalOrder value.1 value.2
  let attempt (count : Nat) : Option (Nat × Int) :=
    let e := order - count
    let unit := decimalRatio 1 e
    let lower := (value.1 * unit.2) / (value.2 * unit.1)
    (nearestReading x value.1 value.2 lower e).map fun digits => dropZero digits e
  if x.isZero then (0, 0)
  else ((List.range 18).findSome? attempt).getD (0, 0)

/-! ### Text -/

/-- What the formats that numbers are written in do not agree on. -/
structure Style where
  /-- Whether a positive exponent carries a plus sign. -/
  exponentPlus : Bool
  deriving DecidableEq, Repr

/-- An exponent after its letter. -/
def Style.exponent (style : Style) (e : Int) : List Char :=
  match e with
  | .ofNat n => (if style.exponentPlus then ['+'] else []) ++ Nat.toDigits 10 n
  | .negSucc n => '-' :: Nat.toDigits 10 (n + 1)

/-- The text of `digits · 10 ^ e` without a sign. -/
def layout (style : Style) (digits : List Char) (e : Int) : List Char :=
  let count : Int := digits.length
  let point := count + e
  if 0 ≤ e ∧ point ≤ 16 then digits ++ List.replicate e.toNat '0' ++ ['.', '0']
  else if 0 < point ∧ point ≤ 16 then
    digits.take point.toNat ++ '.' :: digits.drop point.toNat
  else if -5 < point ∧ point ≤ 0 then
    ['0', '.'] ++ List.replicate (-point).toNat '0' ++ digits
  else
    let power := style.exponent (point - 1)
    match digits with
    | [d] => d :: 'e' :: power
    | d :: rest => d :: '.' :: rest ++ 'e' :: power
    | [] => []

/-- A number as text. -/
def text (style : Style) (x : Binary64) : List Char :=
  let magnitude :=
    if x.isZero then ['0', '.', '0']
    else layout style (Nat.toDigits 10 x.shortest.1) x.shortest.2
  if x.negative then '-' :: magnitude else magnitude

end Rulebook.Binary64
