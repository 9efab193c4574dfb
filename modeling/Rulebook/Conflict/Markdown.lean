/-
**The report of a scan for readers.**

Main definitions:

* `Rulebook.Conflict.Report.markdown` — the report as a Markdown text.
-/

import Rulebook.Conflict.Scan

set_option autoImplicit false

namespace Rulebook.Conflict

/-- The line of a count. -/
def countLine {α : Type} (name : α → String) (entry : α × Nat) : String :=
  "- " ++ name entry.1 ++ ": " ++ toString entry.2

/-- The line that tells how a conflict is settled. -/
def resolutionLine (r : Resolution) : String :=
  "- **Resolution**: " ++ r.outcome.name ++
    (match r.appliedRule with
      | some id => " (" ++ code id ++ "): "
      | none => ": ") ++ r.rationale

/-- The lines of a conflict with its number. -/
def entryLines (number : Nat) (entry : Entry) : List String :=
  let c := entry.conflict
  ["",
    "### " ++ toString number ++ ". " ++ c.kind.name ++ " conflict (" ++ c.grade.name ++ "): " ++
      code c.first.id ++ " vs " ++ code c.second.id,
    "", c.description, "", "- **Reason**: " ++ c.reason, "- **Suggestion**: " ++ c.suggestion,
    resolutionLine entry.resolution]

/-- The lines of the conflicts, numbered from a given number on. -/
def numberedLines (number : Nat) : List Entry → List String
  | [] => []
  | entry :: rest => entryLines number entry ++ numberedLines (number + 1) rest

/-- The lines of the counts. -/
def summaryLines (s : Summary) : List String :=
  ["Total conflicts: " ++ toString s.total ++ " (" ++ toString s.resolved ++ " resolved, " ++
      toString s.unresolved ++ " unresolved)", "", "## By Severity", ""] ++
    s.byGrade.entries.map (countLine Grade.name) ++ ["", "## By Type", ""] ++
    s.byKind.entries.map (countLine Kind.name)

/-- The lines of a report. -/
def Report.lines (report : Report) : List String :=
  ["# Conflict Detection Report", "",
    "Categories: " ++ Text.commaList (report.categories.map Category.name), ""] ++
    if report.entries.isEmpty then ["No conflicts detected."]
    else
      summaryLines report.summary ++ ["", "## Conflicts"] ++ numberedLines 1 report.entries

/-- The report as a Markdown text. -/
def Report.markdown (report : Report) : String := Text.page report.lines

end Rulebook.Conflict
