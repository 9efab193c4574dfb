/-
**Conditions.**

A condition is a path, which holds if its value counts as true; a comparison of two operands by
`==` or `!=`; or the negation of a condition, written with `!` before it.  An operand is a text
between quotes, a path, or a bare number or truth value, and operands are compared by the text that
a template shows for them.

Main definitions:

* `Rulebook.Template.splitComparison` — the operands around the first comparison sign outside of
  quotes;
* `Rulebook.Template.operand` — an operand as text;
* `Rulebook.Template.holds` — whether a condition holds.
-/

import Rulebook.Number.Literal
import Rulebook.Template.Scope

set_option autoImplicit false

namespace Rulebook.Template

/-! ### Operands -/

/-- The text between two equal quotes. -/
def quotedText? : List Char → Option (List Char)
  | q :: rest =>
    if (q = '\x22' ∨ q = '\x27') ∧ rest.getLast? = some q then some rest.dropLast else none
  | [] => none

/-- Whether a text is a bare truth value, `null` or a number. -/
def isBareLiteral (s : List Char) : Bool :=
  s == "true".toList || s == "false".toList || s == "null".toList || (Literal.float? s).isSome

/-- An operand of a comparison as text.  A bare literal stands for itself, unless the context has
something under that name. -/
def operand (context : Json) (raw : List Char) : List Char :=
  let trimmed := Text.trim raw
  match quotedText? trimmed with
  | some text => text
  | none =>
    match lookUp context trimmed with
    | some value => display value
    | none => if isBareLiteral trimmed then trimmed else []

/-! ### Comparisons -/

/-- A comparison of two operands. -/
structure Comparison where
  /-- The operand before the sign. -/
  left : List Char
  /-- Whether the sign is `==`. -/
  equal : Bool
  /-- The operand after the sign. -/
  right : List Char
  deriving DecidableEq, Repr

/-- A comparison with one more character before it. -/
def Comparison.push (c : Char) (comparison : Comparison) : Comparison :=
  { comparison with left := c :: comparison.left }

/-- The comparison in a text, read from inside the given quote or from outside of quotes. -/
def splitFromQuote : Option Char → List Char → Option Comparison
  | _, [] => none
  | some q, c :: rest =>
    (splitFromQuote (if c = q then none else some q) rest).map (Comparison.push c)
  | none, c :: rest =>
    if c = '\x22' ∨ c = '\x27' then (splitFromQuote (some c) rest).map (Comparison.push c)
    else
      match c, rest with
      | '=', '=' :: right => some ⟨[], true, right⟩
      | '!', '=' :: right => some ⟨[], false, right⟩
      | _, _ => (splitFromQuote none rest).map (Comparison.push c)

/-- The comparison that a text is, by its first comparison sign outside of quotes. -/
def splitComparison (s : List Char) : Option Comparison := splitFromQuote none s

/-! ### Conditions -/

/-- The condition that a text negates: what follows an exclamation mark that is not part of a
comparison sign. -/
def negated? : List Char → Option (List Char)
  | '!' :: '=' :: _ => none
  | '!' :: rest => some rest
  | _ => none

theorem length_lt_of_negated? {s rest : List Char} (h : negated? s = some rest) :
    rest.length < s.length := by
  rw [negated?.eq_def] at h
  split at h
  · simp at h
  · simp_all
  · simp at h

/-- Whether a condition without negation holds. -/
def holdsPlain (context : Json) (condition : List Char) : Bool :=
  match splitComparison condition with
  | some c => (operand context c.left == operand context c.right) == c.equal
  | none => isTruthy (lookUp context condition)

/-- Whether a condition holds. -/
def holds (context : Json) (condition : List Char) : Bool :=
  match _h : negated? (Text.trim condition) with
  | some rest => !holds context rest
  | none => holdsPlain context (Text.trim condition)
termination_by condition.length
decreasing_by
  exact Nat.lt_of_lt_of_le (length_lt_of_negated? _h) (Text.length_trim_le condition)

end Rulebook.Template
