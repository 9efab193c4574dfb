/-
**Counting conflicts.**

The conflicts of a list are counted one after the other.  Each of them adds one to the count of its
grade, to that of its kind, and to the number of those that are settled or of those that are not.

Main definitions:

* `Rulebook.Conflict.Entry` — a conflict with the way it is settled;
* `Rulebook.Conflict.Summary`, `Rulebook.Conflict.Summary.count` — counts, and those with one
  conflict more;
* `Rulebook.Conflict.summarize` — the counts of a list of conflicts.
-/

import Rulebook.Conflict.Resolution
import Rulebook.SortedMap

set_option autoImplicit false

namespace Rulebook.Conflict

/-- A conflict with the way it is settled. -/
structure Entry where
  /-- The conflict. -/
  conflict : Conflict
  /-- The way it is settled. -/
  resolution : Resolution
  deriving DecidableEq, Repr

/-- The counts of a list of conflicts. -/
structure Summary where
  /-- The number of conflicts. -/
  total : Nat
  /-- The number of conflicts of each grade that occurs. -/
  byGrade : SortedMap Grade Nat
  /-- The number of conflicts of each kind that occurs. -/
  byKind : SortedMap Kind Nat
  /-- The number of those that are settled. -/
  resolved : Nat
  /-- The number of those that are not. -/
  unresolved : Nat
  deriving DecidableEq, Repr

namespace Summary

/-- No counts yet, for a given number of conflicts. -/
def start (total : Nat) : Summary := ⟨total, .empty, .empty, 0, 0⟩

/-- Counts one more conflict; the total is known beforehand. -/
def count (s : Summary) (entry : Entry) : Summary :=
  let counted := { s with
    byGrade := s.byGrade.update entry.conflict.grade 0 (· + 1)
    byKind := s.byKind.update entry.conflict.kind 0 (· + 1) }
  if entry.resolution.isResolved then { counted with resolved := s.resolved + 1 }
  else { counted with unresolved := s.unresolved + 1 }

end Summary

/-- The counts of a list of conflicts. -/
def summarize (entries : List Entry) : Summary := entries.foldl Summary.count (.start entries.length)

end Rulebook.Conflict
