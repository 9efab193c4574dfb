/-
**Rules as they are listed, and as they are scanned.**

Rules are listed, and they are compared with each other, with the overrides of the settings layered
on them.  If no categories are asked for, both take the rules of the project; but a scan layers the
overrides of the configured categories, in the order in which they are configured, whereas the list
layers those of every category there is, in the order in which categories are listed.  What is left
of a rule is the last state and the last severity that the settings give it on the way.  So the two
agree on a rule exactly if they come to the same last words, which they do if the categories that
say anything about the rule are configured, and configured in order.  A category that the project
does not belong to has its say in the list all the same (`Rulebook.Cli.not_always_alike`).

Main definitions:

* `Rulebook.Configuration.lastState`, `Rulebook.Configuration.lastSeverity` — the last words about a
  rule;
* `Rulebook.Configuration.speakers` — the categories that say anything about a rule;
* `Rulebook.Project.taken` — the rules of a project as a scan takes them.

Main results:

* `Rulebook.Overrides.effect_ofConfiguration` — **what is left of a rule are the last words about
  it**;
* `Rulebook.Cli.shown_iff_lastWords` — **a rule is listed as it is scanned exactly if the last words
  agree**;
* `Rulebook.Cli.lastWords_eq_of_speakers` — they do if the same categories speak in the same order.
-/

import Rulebook.Cli.Run
import Rulebook.Proofs.Conflict.Coverage
import Rulebook.Proofs.Override.Saying
import Rulebook.Proofs.Registry.Loading

set_option autoImplicit false

namespace Rulebook

open Override (netEffect NetEffect)

/-! ### Last words -/

/-- The net effect of several groups is made of the last state and the last severity that any of
them leaves. -/
theorem Override.netEffect_flatMap (group : Category → List Override) (categories : List Category) :
    netEffect (categories.flatMap group) =
      ⟨categories.reverse.findSome? fun c => (netEffect (group c)).enabled,
        categories.reverse.findSome? fun c => (netEffect (group c)).severity⟩ := by
  induction categories with
  | nil => rfl
  | cons c rest ih =>
      rw [List.flatMap_cons, netEffect_append, ih, List.reverse_cons, List.findSome?_append,
        List.findSome?_append, List.findSome?_singleton, List.findSome?_singleton]
      rfl

namespace Configuration

/-- The last state that a configuration gives a rule which is looked at for some categories, if it
gives it any. -/
def lastState (config : Configuration) (ruleId : String) (categories : List Category) :
    Option Bool :=
  (layers categories).reverse.findSome? fun c => (config.tells ruleId c).enabled

/-- The last severity that a configuration gives a rule which is looked at for some categories, if
it gives it any. -/
def lastSeverity (config : Configuration) (ruleId : String) (categories : List Category) :
    Option Severity :=
  (layers categories).reverse.findSome? fun c => (config.tells ruleId c).severity

/-- Those of the categories that say anything about a rule, in the order in which they speak. -/
def speakers (config : Configuration) (ruleId : String) (categories : List Category) :
    List Category :=
  (layers categories).filter fun c => decide (config.tells ruleId c ≠ .nothing)

/-- Only the categories that say anything matter for a last word. -/
theorem findSome?_speakers {α : Type} (config : Configuration) (ruleId : String)
    (word : NetEffect → Option α) (hnothing : word .nothing = none) (categories : List Category) :
    ((config.speakers ruleId categories).reverse.findSome? fun c => word (config.tells ruleId c)) =
      (layers categories).reverse.findSome? fun c => word (config.tells ruleId c) := by
  rw [speakers, ← List.filter_reverse]
  induction (layers categories).reverse with
  | nil => rfl
  | cons c rest ih =>
      by_cases h : config.tells ruleId c = .nothing
      · rw [List.filter_cons_of_neg (by simpa using h), ih, List.findSome?_cons, h, hnothing]
      · rw [List.filter_cons_of_pos (by simpa using h), List.findSome?_cons, List.findSome?_cons,
          ih]

end Configuration

/-- **What is left of a rule are the last words about it.** -/
theorem Overrides.effect_ofConfiguration (config : Configuration) (ruleId : String)
    (categories : List Category) :
    (ofConfiguration config).effect ruleId categories =
      ⟨config.lastState ruleId categories, config.lastSeverity ruleId categories⟩ := by
  rw [effect, Override.netEffect_flatMap]
  simp only [netEffect_get_ofConfiguration]
  rfl

/-- So a rule is left with the last state and the last severity, or with its own. -/
theorem Overrides.applyLayered_ofConfiguration (config : Configuration) (rule : Rule)
    (categories : List Category) :
    (ofConfiguration config).applyLayered rule categories =
      { rule with
        enabled := (config.lastState rule.id categories).getD rule.enabled
        severity := (config.lastSeverity rule.id categories).getD rule.severity } := by
  rw [applyLayered_eq, effect_ofConfiguration, NetEffect.applyTo]

/-! ### Rules of a project -/

/-- The rules of a project as a scan of it takes them, those out of force included. -/
def Project.taken (p : Project) : List Rule :=
  (p.registry.query (Conflict.scanned p.configuration none) none).map
    (Conflict.adjusted (some (.ofConfiguration p.configuration))
      (Conflict.scanned p.configuration none))

/-- A scan compares those of them that are in force. -/
theorem Project.activeRules_eq (p : Project) :
    Conflict.activeRules p.registry (some (.ofConfiguration p.configuration))
        (Conflict.scanned p.configuration none) =
      p.taken.filter (·.enabled) := rfl

/-- The registry of a workspace comes about by loading documents. -/
theorem Workspace.reachable_of_project {w : Workspace} {tree : FileTree} {user : Option String}
    {p : Project} (h : w.project tree user = .ok p) : p.registry.Reachable := by
  obtain ⟨config, -, h⟩ := exists_of_bind_eq_ok h
  obtain ⟨registry, hregistry, h⟩ := exists_of_bind_eq_ok h
  cases h
  have hown : (Registry.ofDirectory tree w.rulesDirectory).Reachable :=
    Registry.Reachable.empty.loadDirectory tree w.rulesDirectory
  simp only [Workspace.registry] at hregistry
  split at hregistry
  · cases hregistry
    exact hown
  · split at hregistry
    · rename_i loaded hload
      cases hregistry
      exact hown.loadPattern? tree hload
    · cases hregistry

namespace Registry

/-- A registry has a rule once. -/
theorem Reachable.filter_id {registry : Registry} (h : registry.Reachable) {rule : Rule}
    (hrule : rule ∈ registry.rules) : registry.rules.filter (·.id == rule.id) = [rule] := by
  obtain ⟨before, behind, hsplit⟩ := List.append_of_mem hrule
  have hnodup := h.nodup_ids
  rw [ids, hsplit, List.map_append, List.map_cons, List.nodup_append, List.nodup_cons] at hnodup
  obtain ⟨-, ⟨hbehind, -⟩, hbefore⟩ := hnodup
  have hnone : before.filter (·.id == rule.id) = [] := by
    refine List.filter_eq_nil_iff.mpr fun other hother hid => ?_
    exact hbefore _ (List.mem_map_of_mem hother) _ (List.mem_cons_self ..) (by simpa using hid)
  have hnone' : behind.filter (·.id == rule.id) = [] := by
    refine List.filter_eq_nil_iff.mpr fun other hother hid => hbehind ?_
    exact List.mem_map.mpr ⟨other, hother, by simpa using hid⟩
  rw [hsplit, List.filter_append, hnone, List.filter_cons_of_pos (by simp), hnone',
    List.nil_append]

/-- Hence it is found once, and whatever is made of what is found without changing an id. -/
theorem Reachable.filter_id_map_query {registry : Registry} (h : registry.Reachable)
    {categories : List Category} {rule : Rule} (hrule : rule ∈ registry.rules)
    (hcategory : categories.any rule.hasCategory) {f : Rule → Rule} (hf : ∀ r, (f r).id = r.id) :
    ((registry.query categories none).map f).filter (·.id == rule.id) = [f rule] := by
  have hcomp : ((fun r : Rule => r.id == rule.id) ∘ f) = fun r => r.id == rule.id := by
    funext r
    rw [Function.comp_apply, hf]
  have hquery : (registry.query categories none).filter (fun r : Rule => r.id == rule.id) =
      [rule] := by
    rw [query, List.filter_comm, h.filter_id hrule, List.filter_cons_of_pos (by simpa using hcategory),
      List.filter_nil]
  rw [List.filter_map, hcomp, hquery, List.map_singleton]

end Registry

namespace Cli

/-- Without categories that are asked for, every rule is listed, as it is for all of them. -/
theorem listed_nil (p : Project) :
    listed p [] false false =
      (p.registry.query Category.all none).map fun rule =>
        (Overrides.ofConfiguration p.configuration).applyLayered rule Category.all := by
  simp [listed]

theorem mem_scanned_none (config : Configuration) (category : Category) :
    category ∈ Conflict.scanned config none ↔
      category = .universal ∨ category ∈ config.categories :=
  @Conflict.mem_scanned config config.categories category

/-- What a scan makes of a rule is what the configured categories make of it. -/
theorem adjusted_scanned_none (config : Configuration) (os : Overrides) (rule : Rule) :
    Conflict.adjusted (some os) (Conflict.scanned config none) rule =
      os.applyLayered rule config.categories := by
  have hlayers : layers (Conflict.scanned config none) = layers config.categories :=
    Conflict.layers_scanned config config.categories
  simp only [Conflict.adjusted, Overrides.applyLayered, hlayers]

/-- The last words about a rule are the same whether they are looked for among all categories or
among those of the configuration. -/
def SameLastWords (config : Configuration) (rule : Rule) : Prop :=
  (config.lastState rule.id Category.all).getD rule.enabled =
      (config.lastState rule.id config.categories).getD rule.enabled ∧
    (config.lastSeverity rule.id Category.all).getD rule.severity =
      (config.lastSeverity rule.id config.categories).getD rule.severity

instance (config : Configuration) (rule : Rule) : Decidable (SameLastWords config rule) := by
  unfold SameLastWords
  infer_instance

/-- The last words agree if the same categories speak about the rule in the same order. -/
theorem lastWords_eq_of_speakers {config : Configuration} {rule : Rule}
    (h : config.speakers rule.id Category.all = config.speakers rule.id config.categories) :
    SameLastWords config rule := by
  have hstate : config.lastState rule.id Category.all =
      config.lastState rule.id config.categories := by
    rw [Configuration.lastState, Configuration.lastState,
      ← config.findSome?_speakers rule.id NetEffect.enabled rfl, h,
      config.findSome?_speakers rule.id NetEffect.enabled rfl]
  have hseverity : config.lastSeverity rule.id Category.all =
      config.lastSeverity rule.id config.categories := by
    rw [Configuration.lastSeverity, Configuration.lastSeverity,
      ← config.findSome?_speakers rule.id NetEffect.severity rfl, h,
      config.findSome?_speakers rule.id NetEffect.severity rfl]
  exact ⟨by rw [hstate], by rw [hseverity]⟩

/-- **Rules as they are listed, and as they are scanned.**  Take any rule of a project that is
universal or of one of its categories.  It is listed once, and a scan takes it once; and both have
it in the same state and with the same severity exactly if the last words about it are the same
among all categories as among those of the project. -/
theorem shown_iff_lastWords {w : Workspace} {tree : FileTree} {user : Option String} {p : Project}
    (hp : w.project tree user = .ok p) {rule : Rule} (hrule : rule ∈ p.registry.rules)
    (htag : rule.isUniversal ∨ ∃ c ∈ p.configuration.categories, rule.hasCategory c) :
    ∃ shown compared : Rule,
      (listed p [] false false).filter (·.id == rule.id) = [shown] ∧
      p.taken.filter (·.id == rule.id) = [compared] ∧
      ((shown.enabled = compared.enabled ∧ shown.severity = compared.severity) ↔
        SameLastWords p.configuration rule) := by
  have hregistry : p.registry.Reachable := Workspace.reachable_of_project hp
  have hscanned : (Conflict.scanned p.configuration none).any rule.hasCategory := by
    obtain huniversal | ⟨c, hc, hcategory⟩ := htag
    · exact List.any_eq_true.mpr ⟨.universal, (mem_scanned_none _ _).mpr (.inl rfl), huniversal⟩
    · exact List.any_eq_true.mpr ⟨c, (mem_scanned_none _ _).mpr (.inr hc), hcategory⟩
  have hall : Category.all.any rule.hasCategory := by
    obtain ⟨c, -, hcategory⟩ := List.any_eq_true.mp hscanned
    exact List.any_eq_true.mpr ⟨c, Category.mem_all c, hcategory⟩
  refine ⟨(Overrides.ofConfiguration p.configuration).applyLayered rule Category.all,
    (Overrides.ofConfiguration p.configuration).applyLayered rule p.configuration.categories,
    ?_, ?_, ?_⟩
  · rw [listed_nil]
    exact hregistry.filter_id_map_query hrule hall fun _ => Overrides.id_applyLayered ..
  · rw [← adjusted_scanned_none]
    refine hregistry.filter_id_map_query hrule hscanned fun other => ?_
    rw [adjusted_scanned_none, Overrides.id_applyLayered]
  · rw [Overrides.applyLayered_ofConfiguration, Overrides.applyLayered_ofConfiguration]
    exact Iff.rfl

/-! ### A rule that both have alike, and one that they have not -/

/-- The rule of a document about names. -/
def namingRule : Rule where
  id := "universal-naming"
  name := "Naming"
  description := ""
  rationale := ""
  category := [.universal]
  severity := .warning
  enabled := true
  examples := .none
  standard := none
  source := some "rules/naming.md"

/-- A project for systems with that document, and a section that puts its rule out of force. -/
def namingTree (category : Category) : FileTree :=
  ((FileTree.empty "/project").write "/project/canon.json" (.file (.text
    (Text.braced ("\"categories\": [\"systems\"], \"category_overrides\": " ++
      Text.braced ("\"" ++ category.name ++ "\": " ++
        Text.braced "\"disabled_rules\": [\"universal-naming\"]")))))).write
    "/project/rules/naming.md" (.file (.text
      ("# Naming\n\n## Metadata\n- **ID**: universal-naming\n- **Category**: universal\n" ++
        "- **Severity**: WARNING\n")))

/-- The usual places. -/
def usualPlaces : Workspace := ⟨"rules", "templates", none, true⟩

/-- If the category of the project puts the rule out of force, then it is shown to be so, and it is
so in a scan. -/
theorem namingTree_alike :
    ∃ p shown compared : _, usualPlaces.project (namingTree .systems) none = .ok p ∧
      (listed p [] false false).filter (·.id == namingRule.id) = [shown] ∧
      p.taken.filter (·.id == namingRule.id) = [compared] ∧
      shown.enabled = compared.enabled ∧ shown.severity = compared.severity := by
  have hfacts : ((usualPlaces.project (namingTree .systems) none).toOption.map fun p =>
      (p.registry.rules, decide (SameLastWords p.configuration namingRule))) =
        some ([namingRule], true) := by
    decide +kernel
  cases hp : usualPlaces.project (namingTree .systems) none with
  | error cause =>
      rw [hp] at hfacts
      cases hfacts
  | ok p =>
      rw [hp] at hfacts
      obtain ⟨hrules, hsame⟩ := Prod.mk.inj (Option.some.inj hfacts)
      have hrule : namingRule ∈ p.registry.rules := by
        rw [hrules]
        exact List.mem_singleton_self _
      obtain ⟨shown, compared, hshown, hcompared, hiff⟩ :=
        shown_iff_lastWords hp hrule (.inl rfl)
      exact ⟨p, shown, compared, rfl, hshown, hcompared, hiff.mpr (of_decide_eq_true hsame)⟩

/-- If it is another category that puts the rule out of force, then the rule is shown to be so, and
is in force in a scan nevertheless. -/
theorem not_always_alike :
    ¬ ∀ (w : Workspace) (tree : FileTree) (user : Option String) (p : Project),
        w.project tree user = .ok p → ∀ rule ∈ p.registry.rules,
        (rule.isUniversal ∨ ∃ c ∈ p.configuration.categories, rule.hasCategory c) →
        ∃ shown ∈ listed p [] false false, ∃ compared ∈ p.taken,
          shown.id = rule.id ∧ compared.id = rule.id ∧
          shown.enabled = compared.enabled ∧ shown.severity = compared.severity := by
  intro h
  have hfacts : ((usualPlaces.project (namingTree .embedded) none).toOption.map fun p =>
      (p.registry.rules, (listed p [] false false).map Rule.enabled, p.taken.map Rule.enabled)) =
        some ([namingRule], [false], [true]) := by
    decide +kernel
  cases hp : usualPlaces.project (namingTree .embedded) none with
  | error cause =>
      rw [hp] at hfacts
      cases hfacts
  | ok p =>
      rw [hp] at hfacts
      obtain ⟨hrules, hstates⟩ := Prod.mk.inj (Option.some.inj hfacts)
      obtain ⟨hlisted, htaken⟩ := Prod.mk.inj hstates
      have hrule : namingRule ∈ p.registry.rules := by
        rw [hrules]
        exact List.mem_singleton_self _
      obtain ⟨shown, hshown, compared, hcompared, -, -, hsame, -⟩ :=
        h _ _ _ p hp namingRule hrule (.inl rfl)
      have hoff : shown.enabled = false := by
        have hmem := List.mem_map_of_mem (f := Rule.enabled) hshown
        rw [hlisted] at hmem
        exact List.mem_singleton.mp hmem
      have hon : compared.enabled = true := by
        have hmem := List.mem_map_of_mem (f := Rule.enabled) hcompared
        rw [htaken] at hmem
        exact List.mem_singleton.mp hmem
      rw [hoff, hon] at hsame
      cases hsame

end Cli

end Rulebook
