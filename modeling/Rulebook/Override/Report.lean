/-
**The report of a collection of overrides.**

Main definitions:

* `Rulebook.Override.cells`, `Rulebook.Override.tableLine` — the line of an override in a table;
* `Rulebook.Overrides.byCategory` — the overrides regrouped by category;
* `Rulebook.Overrides.reportLines`, `Rulebook.Overrides.report` — the report, with one table for
  each category that has overrides.
-/

import Rulebook.Override.Collection
import Rulebook.Text.Page

set_option autoImplicit false

namespace Rulebook

namespace Override

/-- What a table shows of an override. -/
def cells (o : Override) : List String :=
  [o.ruleId, o.action.name, (o.newSeverity.map Severity.name).getD "-", o.reason, o.appliedBy.name]

/-- The line of a table with the given cells. -/
def lineOfCells (cells : List String) : String := "| " ++ " | ".intercalate cells ++ " |"

/-- The line of an override in a table. -/
def tableLine (o : Override) : String := lineOfCells o.cells

end Override

namespace Overrides

/-- The lines above the overrides of a table. -/
def tableHead : List String :=
  ["| Rule | Action | Severity | Reason | Applied By |",
   "|------|--------|----------|--------|------------|"]

/-- The table of a category. -/
def categoryTable (category : Category) (found : List Override) : List String :=
  ["## " ++ category.name, ""] ++ tableHead ++ found.map Override.tableLine ++ [""]

/-- The overrides by their categories, those of a category in order. -/
def byCategory (os : Overrides) : SortedMap Category (List Override) :=
  .grouped Override.category os.all

/-- The lines of the report. -/
def reportLines (os : Overrides) : List String :=
  ["# Rule Override Report", ""] ++
    if os.isEmpty then ["No overrides configured."]
    else
      ["Total overrides: " ++ toString os.size, ""] ++
        os.byCategory.entries.flatMap fun entry => categoryTable entry.1 entry.2

/-- The report. -/
def report (os : Overrides) : String := Text.page os.reportLines

end Overrides

end Rulebook
