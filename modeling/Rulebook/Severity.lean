/-
**Severities.**

How strongly a rule is enforced.  Where two rules compete the higher rank wins.

Main definitions:

* `Rulebook.Severity` — the three severities, with `name` and `rank`;
* `Rulebook.Severity.parse` — the severity that a text names; `WARN` is short for `WARNING`.

Main statements:

* `Rulebook.Severity.rank_injective` — different severities have different ranks.
-/

import Rulebook.Rule.Error
import Rulebook.Text.Blank
import Rulebook.Text.Letters

set_option autoImplicit false

namespace Rulebook

/-- How strongly a rule is enforced. -/
inductive Severity where
  /-- A violation is an error. -/
  | error
  /-- A violation is a warning. -/
  | warning
  /-- A violation is worth a note. -/
  | info
  deriving DecidableEq, Repr

namespace Severity

/-- The severities, strongest first. -/
def all : List Severity := [.error, .warning, .info]

/-- The name of a severity. -/
def name : Severity → String
  | .error => "ERROR"
  | .warning => "WARNING"
  | .info => "INFO"

/-- The rank of a severity: the stronger, the higher. -/
def rank : Severity → Nat
  | .error => 3
  | .warning => 2
  | .info => 1

/-- Different severities have different ranks. -/
theorem rank_injective {a b : Severity} (h : a.rank = b.rank) : a = b := by
  cases a <;> cases b <;> first | rfl | simp [rank] at h

/-- The severity of an exact name. -/
def ofName? (text : String) : Option Severity := all.find? fun s => s.name == text

@[simp] theorem ofName?_name (s : Severity) : ofName? s.name = some s := by cases s <;> decide

/-- The severity that a text names; case and surrounding blanks do not matter. -/
def parse (text : List Char) : Except RuleError Severity :=
  let trimmed := Text.trim text
  let upper := String.ofList (Text.toUpper trimmed)
  if upper = "WARN" then .ok .warning
  else
    match ofName? upper with
    | some s => .ok s
    | none => .error (.unknownSeverity (String.ofList trimmed))

/-- A name is read as its severity. -/
@[simp] theorem parse_name (s : Severity) : parse s.name.toList = .ok s := by
  cases s <;> rfl

end Severity

end Rulebook
