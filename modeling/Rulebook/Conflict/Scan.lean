/-
**Scanning a registry for conflicts.**

The rules of the scanned categories, and the universal ones, are taken as they are in force there,
and every conflict among them is settled.

Main definitions:

* `Rulebook.Conflict.scanned` — the categories of a scan;
* `Rulebook.Conflict.activeRules` — the rules in force for a list of categories;
* `Rulebook.Conflict.Report`, `Rulebook.Conflict.scan` — the conflicts of a registry.
-/

import Rulebook.Conflict.Summary
import Rulebook.Override.Collection
import Rulebook.Registry.Basic

set_option autoImplicit false

namespace Rulebook.Conflict

/-- The conflicts of a registry. -/
structure Report where
  /-- The categories that were scanned. -/
  categories : List Category
  /-- The conflicts and how they are settled. -/
  entries : List Entry
  /-- Their counts. -/
  summary : Summary
  deriving DecidableEq, Repr

/-- The categories of a scan: those asked for, or else those of the configuration, and the
universal one. -/
def scanned (config : Configuration) (asked : Option (List Category)) : List Category :=
  let categories := asked.getD config.categories
  if categories.contains .universal then categories else categories ++ [.universal]

/-- A rule as it is for a list of categories, if there are overrides. -/
def adjusted (overrides : Option Overrides) (categories : List Category) (rule : Rule) : Rule :=
  match overrides with
  | some os => os.applyLayered rule categories
  | none => rule

/-- The rules that are in force for a list of categories. -/
def activeRules (registry : Registry) (overrides : Option Overrides)
    (categories : List Category) : List Rule :=
  ((registry.query categories none).map (adjusted overrides categories)).filter (·.enabled)

/-- The conflicts of a list of rules and how they are settled. -/
def settle (config : Configuration) (categories : List Category) (rules : List Rule) :
    List Entry :=
  (among rules).map fun conflict => ⟨conflict, conflict.resolve config categories⟩

/-- The conflicts of a registry. -/
def scan (registry : Registry) (config : Configuration) (overrides : Option Overrides)
    (asked : Option (List Category)) : Report :=
  let categories := scanned config asked
  let entries := settle config categories (activeRules registry overrides categories)
  ⟨categories, entries, summarize entries⟩

end Rulebook.Conflict
