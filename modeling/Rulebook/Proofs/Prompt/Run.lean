/-
**What requests do to a session.**

A request may write a prompt, switch remembering on or off, forget everything or write a file.  What
writing a prompt comes to is said here once, in three cases, and everything that holds of single
requests is read off them: a prompt that cannot be written leaves the generator as it is, one that
is written adds to what is remembered and replaces nothing, and no request touches the settings that
the generator was made with.  The modules that follow a generator through a run build on this.

Main definitions:

* `Rulebook.Prompt.Session.run` — a session after several requests;
* `Rulebook.Prompt.Generator.answer` — the prompt for a context, whatever is remembered;
* `Rulebook.Prompt.Generator.SameSettings` — two generators that differ in what they remember only;
* `Rulebook.Prompt.Request.Forgets` — a request after which nothing is remembered.

Main results:

* `Rulebook.Prompt.Generator.generate_cases` — what writing a prompt may come to;
* `Rulebook.Prompt.Generator.get?_templates_generate`,
  `Rulebook.Prompt.Generator.get?_prompts_generate` — **what is remembered stays as it is** when a
  prompt is written;
* `Rulebook.Prompt.Session.sameSettings_run` — a run leaves the settings as they are.
-/

import Rulebook.Proofs.Prompt.Key
import Rulebook.Proofs.SortedMap

set_option autoImplicit false

namespace Rulebook.Prompt

/-! ### Runs -/

/-- A session after several requests. -/
def Session.run (session : Session) (requests : List Request) : Session :=
  requests.foldl (fun session request => (session.step request).1) session

/-- The answer to what came of writing a prompt. -/
def Response.ofResult : Except Failure Prompt → Response
  | .ok written => .prompt written
  | .error cause => .failed cause

theorem Session.step_generate (session : Session) (context : PromptContext) :
    session.step (.generate context) =
      ({ session with generator := (session.generator.generate session.tree context).1 },
        .ofResult (session.generator.generate session.tree context).2) := by
  rw [Session.step]
  split
  · rename_i g prompt heq
    rw [heq, Response.ofResult]
  · rename_i g cause heq
    rw [heq, Response.ofResult]

/-- The prompt for a context, whatever is remembered. -/
def Generator.answer (tree : FileTree) (g : Generator) (context : PromptContext) :
    Except Failure Prompt :=
  (readTemplate tree g.templatesDirectory context.detect).map (g.fill context.detect context)

/-- What writing a prompt may come to: the prompt was remembered; or there is no template; or the
prompt is written and remembered. -/
theorem Generator.generate_cases (tree : FileTree) (g : Generator) (context : PromptContext) :
    (∃ prompt, g.remembered? context.key = some prompt ∧
      g.generate tree context = (g, .ok prompt)) ∨
    (∃ cause, g.remembered? context.key = none ∧ g.template tree context.detect = .error cause ∧
      g.generate tree context = (g, .error cause)) ∨
    (∃ loaded, g.remembered? context.key = none ∧ g.template tree context.detect = .ok loaded ∧
      g.generate tree context =
        (g.remember context.detect context.key loaded (g.fill context.detect context loaded),
          .ok (g.fill context.detect context loaded))) := by
  have hkey : cacheKey context.detect context = context.key := rfl
  simp only [generate, hkey]
  cases hremembered : g.remembered? context.key with
  | some prompt => exact Or.inl ⟨prompt, rfl, rfl⟩
  | none =>
      cases htemplate : g.template tree context.detect with
      | error cause => exact Or.inr (Or.inl ⟨cause, rfl, rfl, rfl⟩)
      | ok loaded => exact Or.inr (Or.inr ⟨loaded, rfl, rfl, rfl⟩)

theorem Generator.generate_fst (tree : FileTree) (g : Generator) (context : PromptContext) :
    (g.generate tree context).1 =
      { g with
        templates := (g.generate tree context).1.templates
        prompts := (g.generate tree context).1.prompts } := by
  obtain ⟨prompt, -, heq⟩ | ⟨cause, -, -, heq⟩ | ⟨loaded, -, -, heq⟩ := g.generate_cases tree context
  · rw [heq]
  · rw [heq]
  · rw [heq, remember]

/-- A template that is remembered afterwards is the one that would have been taken before. -/
theorem Generator.templates_generate {tree : FileTree} {g : Generator} {context : PromptContext}
    {category : Category} {loaded : LoadedTemplate}
    (h : (g.generate tree context).1.templates.get? category = some loaded) :
    g.template tree category = .ok loaded := by
  have hold (hget : g.templates.get? category = some loaded) :
      g.template tree category = .ok loaded := by
    rw [template, hget]
  obtain ⟨prompt, -, heq⟩ | ⟨cause, -, -, heq⟩ | ⟨found, -, htemplate, heq⟩ :=
    g.generate_cases tree context
  · rw [heq] at h
    exact hold h
  · rw [heq] at h
    exact hold h
  · rw [heq] at h
    simp only [remember, SortedMap.get?_insert] at h
    split at h
    · rename_i hcategory
      cases h
      rw [hcategory, htemplate]
    · exact hold h

theorem Generator.generate_snd_of_remembered?_eq_none {tree : FileTree} {g : Generator}
    {context : PromptContext} (h : g.remembered? context.key = none) :
    (g.generate tree context).2 =
      (g.template tree context.detect).map (g.fill context.detect context) := by
  obtain ⟨prompt, hremembered, -⟩ | ⟨cause, -, htemplate, heq⟩ | ⟨loaded, -, htemplate, heq⟩ :=
    g.generate_cases tree context
  · rw [h] at hremembered
    cases hremembered
  · rw [heq, htemplate]
    rfl
  · rw [heq, htemplate]
    rfl

/-- **A prompt that cannot be written leaves the generator as it is.** -/
theorem Generator.generate_fst_of_error {tree : FileTree} {g : Generator} {context : PromptContext}
    {cause : Failure} (h : (g.generate tree context).2 = .error cause) :
    (g.generate tree context).1 = g := by
  obtain ⟨prompt, -, heq⟩ | ⟨other, -, -, heq⟩ | ⟨loaded, -, -, heq⟩ := g.generate_cases tree context
  · rw [heq]
  · rw [heq]
  · rw [heq] at h
    cases h

/-- **A template that is remembered stays as it is** when a prompt is written. -/
theorem Generator.get?_templates_generate {tree : FileTree} {g : Generator}
    {context : PromptContext} {category : Category} {loaded : LoadedTemplate}
    (h : g.templates.get? category = some loaded) :
    (g.generate tree context).1.templates.get? category = some loaded := by
  obtain ⟨prompt, -, heq⟩ | ⟨cause, -, -, heq⟩ | ⟨found, -, htemplate, heq⟩ :=
    g.generate_cases tree context
  · rw [heq]
    exact h
  · rw [heq]
    exact h
  · rw [heq]
    simp only [remember, SortedMap.get?_insert]
    split
    · -- The template that is remembered anew is the one that was remembered.
      rename_i hcategory
      rw [template, ← hcategory, h] at htemplate
      cases htemplate
      rfl
    · exact h

/-- **A prompt that is remembered stays as it is** when a prompt is written. -/
theorem Generator.get?_prompts_generate {tree : FileTree} {g : Generator} {context : PromptContext}
    {key : String} {prompt : Prompt} (h : g.prompts.get? key = some prompt) :
    (g.generate tree context).1.prompts.get? key = some prompt := by
  obtain ⟨other, -, heq⟩ | ⟨cause, -, -, heq⟩ | ⟨loaded, hremembered, -, heq⟩ :=
    g.generate_cases tree context
  · rw [heq]
    exact h
  · rw [heq]
    exact h
  · rw [heq]
    simp only [remember]
    split
    · -- A prompt is written only if none is remembered under its key.
      rename_i hcaching
      rw [remembered?, if_pos hcaching] at hremembered
      have hne : key ≠ context.key := by
        rintro rfl
        rw [h] at hremembered
        cases hremembered
      rw [SortedMap.get?_insert, if_neg hne, h]
    · exact h

/-! ### What requests leave as it is -/

/-- Two generators that differ in what they remember only. -/
structure Generator.SameSettings (g h : Generator) : Prop where
  registry_eq : h.registry = g.registry
  languageStandard_eq : h.languageStandard = g.languageStandard
  overrides_eq : h.overrides = g.overrides
  templatesDirectory_eq : h.templatesDirectory = g.templatesDirectory
  withConflicts_eq : h.withConflicts = g.withConflicts

theorem Generator.SameSettings.refl (g : Generator) : g.SameSettings g :=
  ⟨rfl, rfl, rfl, rfl, rfl⟩

theorem Generator.SameSettings.trans {f g h : Generator} (hfg : f.SameSettings g)
    (hgh : g.SameSettings h) : f.SameSettings h where
  registry_eq := hgh.registry_eq.trans hfg.registry_eq
  languageStandard_eq := hgh.languageStandard_eq.trans hfg.languageStandard_eq
  overrides_eq := hgh.overrides_eq.trans hfg.overrides_eq
  templatesDirectory_eq := hgh.templatesDirectory_eq.trans hfg.templatesDirectory_eq
  withConflicts_eq := hgh.withConflicts_eq.trans hfg.withConflicts_eq

theorem Generator.sameSettings_setCaching (g : Generator) (caching : Bool) :
    g.SameSettings (g.setCaching caching) := by
  cases caching with
  | false => exact ⟨rfl, rfl, rfl, rfl, rfl⟩
  | true => exact ⟨rfl, rfl, rfl, rfl, rfl⟩

/-- **A request leaves the settings of the generator as they are.** -/
theorem Session.sameSettings_step (session : Session) (request : Request) :
    session.generator.SameSettings (session.step request).1.generator := by
  cases request with
  | generate context =>
      rw [Session.step_generate, session.generator.generate_fst]
      exact ⟨rfl, rfl, rfl, rfl, rfl⟩
  | setCaching caching => exact session.generator.sameSettings_setCaching caching
  | clear => exact ⟨rfl, rfl, rfl, rfl, rfl⟩
  | write path node => exact .refl _
  | activeRules category => exact .refl _

/-- **So does a run.** -/
theorem Session.sameSettings_run (session : Session) (requests : List Request) :
    session.generator.SameSettings (session.run requests).generator := by
  induction requests generalizing session with
  | nil => exact .refl _
  | cons request requests ih => exact (session.sameSettings_step request).trans (ih _)

/-- Two generators with the same settings give the same answer, as far as it is not remembered. -/
theorem Generator.SameSettings.answer_eq {g h : Generator} (hsame : g.SameSettings h)
    (tree : FileTree) (context : PromptContext) : h.answer tree context = g.answer tree context := by
  have hfill : h.fill = g.fill := by
    funext category context template
    simp only [fill, activeRules, hsame.registry_eq, hsame.languageStandard_eq, hsame.overrides_eq,
      hsame.withConflicts_eq]
  rw [answer, answer, hfill, hsame.templatesDirectory_eq]

theorem Session.step_generate_new (tree : FileTree) (registry : Registry) (config : Configuration)
    (directory : String) (withConflicts : Bool) (context : PromptContext) :
    let g := Generator.new registry config directory withConflicts
    ((⟨tree, g⟩ : Session).step (.generate context)).2 = .ofResult (g.answer tree context) := by
  intro g
  have hnone : g.remembered? context.key = none := rfl
  rw [Session.step_generate, Generator.generate_snd_of_remembered?_eq_none hnone]
  rfl

/-! ### Forgetting -/

/-- A request after which nothing is remembered. -/
def Request.Forgets : Request → Prop
  | .clear => True
  | .setCaching caching => caching = false
  | _ => False

end Rulebook.Prompt
