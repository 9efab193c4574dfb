/-
**What a prompt tells of conflicts.**

A prompt may list the conflicts of its rules, and a scan of the category of the prompt reports
conflicts too.  The two ask the registry and layer the overrides separately: a prompt asks for its
category and the universal one, twice for the universal one if that is its own, and a scan asks for
its categories and adds the universal one where it is missing.  Neither the repetition nor the order
of what is asked for matters, and the universal layer comes first in any case, so both look at the
same rules, and the prompt lists what the report tells.  A generator that remembers templates and
prompts, or forgets them, keeps the rules and the overrides that it was made with, so this holds
whatever it was asked before.

Main definitions:

* `Rulebook.Prompt.Generator.values` — the values that a template is filled from.

Main results:

* `Rulebook.Prompt.activeRules_eq_scan` — the rules of a prompt are those of a scan;
* `Rulebook.Prompt.annotation_eq_report` — **the prompt lists what the report tells**.
-/

import Rulebook.Proofs.Conflict.Coverage
import Rulebook.Proofs.Prompt.Run

set_option autoImplicit false

namespace Rulebook.Prompt

/-! ### The rules -/

/-- A scan of one category looks at the rules of this category and at the universal ones. -/
theorem any_scanned_singleton (config : Configuration) (category : Category) (rule : Rule) :
    (Conflict.scanned config (some [category])).any rule.hasCategory =
      [category, .universal].any rule.hasCategory := by
  have hmem (c : Category) : c ∈ Conflict.scanned config (some [category]) ↔
      c ∈ [category, .universal] := by
    rw [Conflict.mem_scanned, List.mem_singleton, List.mem_pair, or_comm]
  rw [Bool.eq_iff_iff, List.any_eq_true, List.any_eq_true]
  simp only [hmem]

/-- **The rules of a prompt are those of a scan of its category**, in the same order and with the
same states and severities. -/
theorem activeRules_eq_scan (registry : Registry) (config : Configuration) (os : Overrides)
    (category : Category) :
    activeRules registry os category =
      Conflict.activeRules registry (some os) (Conflict.scanned config (some [category])) := by
  have hquery : registry.query (Conflict.scanned config (some [category])) none =
      registry.query [category, .universal] none := by
    refine List.filter_congr fun rule _ => ?_
    rw [any_scanned_singleton]
  have hadjusted : Conflict.adjusted (some os) (Conflict.scanned config (some [category])) =
      fun rule => os.applyLayered rule [category] := by
    funext rule
    rw [Conflict.adjusted, Overrides.applyLayered, Overrides.applyLayered,
      Conflict.layers_scanned]
  rw [activeRules, Conflict.activeRules, hquery, hadjusted]

/-! ### The values -/

/-- The values that a template is filled from. -/
def Generator.values (g : Generator) (category : Category) (context : PromptContext) : Json :=
  data g.languageStandard g.withConflicts category context (g.activeRules category)

theorem Generator.text_fill (g : Generator) (category : Category) (context : PromptContext)
    (template : LoadedTemplate) :
    (g.fill category context template).text =
      Template.render template.content (g.values category context) := rfl

/-- The two names that tell of conflicts come nowhere else among the values. -/
theorem get?_data_of_mem (standard : String) (category : Category) (context : PromptContext)
    (rules : List Rule) {key : String} (hkey : key ∈ ["has_conflicts", "conflicts"]) :
    (data standard true category context rules).get? key =
      Fields.get? (conflictFields rules) key := by
  have hcontext : Fields.get? (contextFields context) key = none := by
    refine get?_contextFields_of_not_mem context ?_
    rcases List.mem_pair.mp hkey with rfl | rfl <;> decide
  rw [data, Json.get?, if_pos rfl, Fields.get?_append, Fields.get?_append, hcontext,
    Option.or_none]
  rcases List.mem_pair.mp hkey with rfl | rfl <;> simp [Fields.get?_cons]

/-- A path of one name selects the field of that name. -/
theorem resolve_of_segments {path : List Char} {name : String} (fields : Fields)
    (h : Text.segments '.' (Text.trim path) = [name.toList]) :
    Template.resolve (.object fields) path = Fields.get? fields name := by
  rw [Template.resolve, h, Template.selectAll, Template.select, String.ofList_toList]
  cases Fields.get? fields name <;> rfl

theorem resolve_values {g : Generator} (hconflicts : g.withConflicts = true) (category : Category)
    (context : PromptContext) {key : String} (hkey : key ∈ ["has_conflicts", "conflicts"]) :
    Template.resolve (g.values category context) key.toList =
      Fields.get? (conflictFields (g.activeRules category)) key := by
  have hsegments : Text.segments '.' (Text.trim key.toList) = [key.toList] := by
    rcases List.mem_pair.mp hkey with rfl | rfl <;> decide +kernel
  rw [← get?_data_of_mem g.languageStandard category context _ hkey, Generator.values,
    hconflicts, data, resolve_of_segments _ hsegments]
  rfl

/-- **A prompt with conflicts lists what the report of its category tells.**  The generator may have
been asked anything before, and files may have been written. -/
theorem annotation_eq_report (tree : FileTree) (registry : Registry) (config : Configuration)
    (directory : String) (requests : List Request) (category : Category) :
    let fresh : Session := ⟨tree, .new registry config directory true⟩
    let g := (fresh.run requests).generator
    let overrides := some (Overrides.ofConfiguration config)
    let report := Conflict.scan registry config overrides (some [category])
    g.activeRules category = Conflict.activeRules registry overrides report.categories ∧
      ∀ context : PromptContext,
        Template.resolve (g.values category context) "conflicts".toList =
          some (.array (report.entries.map fun entry => .object [
            ("type", .string entry.conflict.kind.name),
            ("severity", .string entry.conflict.grade.name),
            ("rule1", .string entry.conflict.first.id),
            ("rule2", .string entry.conflict.second.id),
            ("description", .string entry.conflict.description),
            ("suggestion", .string entry.conflict.suggestion)])) ∧
        Template.resolve (g.values category context) "has_conflicts".toList =
          some (.bool (!report.entries.isEmpty)) ∧
        ∀ template : LoadedTemplate, (g.fill category context template).text =
          Template.render template.content (g.values category context) := by
  intro fresh g overrides report
  have hsettings : fresh.generator.SameSettings g := fresh.sameSettings_run requests
  have hrules : g.activeRules category =
      Conflict.activeRules registry overrides report.categories := by
    rw [Generator.activeRules, hsettings.registry_eq, hsettings.overrides_eq]
    exact activeRules_eq_scan registry config (.ofConfiguration config) category
  have hconflicts : report.entries.map (fun entry => entry.conflict) =
      Conflict.among (g.activeRules category) := by
    rw [hrules]
    simp [report, Conflict.scan, Conflict.settle, Function.comp_def]
  refine ⟨hrules, fun context => ⟨?_, ?_, g.text_fill category context⟩⟩
  · rw [resolve_values hsettings.withConflicts_eq category context (by simp), conflictFields,
      ← hconflicts, List.map_map]
    rfl
  · rw [resolve_values hsettings.withConflicts_eq category context (by simp), conflictFields,
      ← hconflicts, List.isEmpty_map]
    rfl

end Rulebook.Prompt
