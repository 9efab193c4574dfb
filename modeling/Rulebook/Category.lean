/-
**Categories.**

A rule applies to the projects of some categories; a rule of the category `universal` applies to
every project.  Categories are listed in a fixed order, which is also the order of the sections of
a configuration.

Main definitions:

* `Rulebook.Category` — the eight categories;
* `Rulebook.Category.all`, `Rulebook.Category.name` — their list and their names;
* `Rulebook.Category.parse` — the category that a text names, in any case and between blanks.

Main statements:

* `Rulebook.Category.parse_name` — a name is read as its category;
* `Rulebook.Category.mem_all` — every category is listed.
-/

import Rulebook.Rule.Error
import Rulebook.Text.Blank
import Rulebook.Text.Letters

set_option autoImplicit false

namespace Rulebook

/-- The kind of project that a rule applies to. -/
inductive Category where
  /-- Systems programs. -/
  | systems
  /-- Embedded programs. -/
  | embedded
  /-- Kernels and their modules. -/
  | kernel
  /-- Device drivers. -/
  | drivers
  /-- Programs with deadlines. -/
  | realtime
  /-- Network programs. -/
  | networking
  /-- Code that is kept compatible with old systems. -/
  | legacy
  /-- Every project. -/
  | universal
  deriving DecidableEq, Repr

namespace Category

/-- The categories, in order. -/
def all : List Category :=
  [.systems, .embedded, .kernel, .drivers, .realtime, .networking, .legacy, .universal]

/-- The name of a category. -/
def name : Category → String
  | .systems => "systems"
  | .embedded => "embedded"
  | .kernel => "kernel"
  | .drivers => "drivers"
  | .realtime => "realtime"
  | .networking => "networking"
  | .legacy => "legacy"
  | .universal => "universal"

/-- The place of a category in the list. -/
def rank : Category → Nat
  | .systems => 0
  | .embedded => 1
  | .kernel => 2
  | .drivers => 3
  | .realtime => 4
  | .networking => 5
  | .legacy => 6
  | .universal => 7

theorem mem_all (c : Category) : c ∈ all := by cases c <;> decide

theorem rank_injective {a b : Category} (h : a.rank = b.rank) : a = b := by
  cases a <;> cases b <;> first | rfl | simp [rank] at h

theorem name_injective {a b : Category} (h : a.name = b.name) : a = b := by
  cases a <;> cases b <;> first | rfl | simp [name] at h

theorem colon_not_mem_name (c : Category) : ':' ∉ c.name.toList := by
  cases c <;> decide

instance : Ord Category := ⟨compareOn rank⟩

instance : Std.TransOrd Category := inferInstanceAs (Std.TransCmp (compareOn rank))

instance : Std.LawfulEqOrd Category where
  eq_of_compare h := rank_injective (Nat.compare_eq_eq.1 h)

/-- The category of an exact name. -/
def ofName? (text : String) : Option Category := all.find? fun c => c.name == text

@[simp] theorem ofName?_name (c : Category) : ofName? c.name = some c := by cases c <;> decide

/-- The category that a text names; case and surrounding blanks do not matter. -/
def parse (text : List Char) : Except RuleError Category :=
  let trimmed := Text.trim text
  match ofName? (String.ofList (Text.toLower trimmed)) with
  | some c => .ok c
  | none => .error (.unknownCategory (String.ofList trimmed))

/-- A name is read as its category. -/
@[simp] theorem parse_name (c : Category) : parse c.name.toList = .ok c := by
  cases c <;> rfl

end Category

end Rulebook
