/-
**What a generator remembers lasts.**

Whatever is asked of a generator, and whatever is written in between, each template that it
remembers has no faults and stood in the file of its category since everything was last forgotten;
and while prompts are not remembered there are none.  Writing a prompt adds to what is remembered,
and a prompt that cannot be written adds nothing.  So a prompt that was given while prompts are
remembered is given again until everything is forgotten: requests that forget nothing keep the
switch on and the entry where it is.

Main definitions:

* `Rulebook.Prompt.Generator.Keeps` — a generator that remembers all that another one does;
* `Rulebook.Prompt.Session.Remembers` — a session in which a prompt is remembered for a context.

Main results:

* `Rulebook.Prompt.Generator.keeps_generate` — writing a prompt keeps what is remembered;
* `Rulebook.Prompt.Session.Remembers.step`, `Rulebook.Prompt.Session.Remembers.run` — a prompt stays
  remembered after a request that forgets nothing, and after a run of them;
* `Rulebook.Prompt.remembering_sound` — **what holds of a generator whatever was asked of it**.
-/

import Rulebook.Proofs.Prompt.Reading

set_option autoImplicit false

namespace Rulebook.Prompt

/-! ### Templates -/

/-- **A template that is remembered stood in the file of its category**, without faults, since
everything was last forgotten. -/
theorem exists_moment_of_template {directory : String} {start : Session}
    (h : Noted directory (.fresh start.tree) start) {requests : List Request} {category : Category}
    {loaded : LoadedTemplate}
    (hget : (start.run requests).generator.templates.get? category = some loaded) :
    Template.isValid loaded.content.toList = true ∧
      ∃ before behind, requests = before ++ behind ∧ (∀ request ∈ behind, ¬ request.Forgets) ∧
        (start.run before).tree.readText (templatePath directory category) =
          .ok loaded.content := by
  have hnoted : Noted directory (Readings.after directory start.tree requests)
      (start.run requests) := h.run requests
  -- What is remembered is what was read from the files that are noted.
  have hread : readTemplate ((Readings.after directory start.tree requests).sourceOf category)
      directory category = .ok loaded := by
    rw [← hnoted.template_eq, Generator.template, hget]
  obtain ⟨-, htext, hvalid⟩ := readTemplate_eq_ok hread
  obtain ⟨before, behind, hsplit, hbehind, hsource⟩ := h.exists_moment requests category
  rw [hsource] at htext
  exact ⟨hvalid, before, behind, hsplit, hbehind, htext⟩

/-! ### Writing a prompt -/

/-- A generator that remembers all that another one does. -/
structure Generator.Keeps (g h : Generator) : Prop where
  /-- The templates. -/
  templates : ∀ category loaded, g.templates.get? category = some loaded →
    h.templates.get? category = some loaded
  /-- The prompts. -/
  prompts : ∀ key prompt, g.prompts.get? key = some prompt → h.prompts.get? key = some prompt

/-- **Writing a prompt keeps what is remembered.** -/
theorem Generator.keeps_generate (tree : FileTree) (g : Generator) (context : PromptContext) :
    g.Keeps (g.generate tree context).1 where
  templates := fun _ _ hget => get?_templates_generate hget
  prompts := fun _ _ hget => get?_prompts_generate hget

theorem Session.step_generate_fst_of_failed {session : Session} {context : PromptContext}
    {cause : Failure} (h : (session.step (.generate context)).2 = .failed cause) :
    (session.step (.generate context)).1 = session := by
  rw [Session.step_generate] at h ⊢
  cases hresult : (session.generator.generate session.tree context).2 with
  | ok prompt =>
      rw [hresult] at h
      cases h
  | error other => rw [Generator.generate_fst_of_error hresult]

/-! ### Prompts -/

/-- A session in which a prompt is remembered for a context. -/
structure Session.Remembers (session : Session) (context : PromptContext) (prompt : Prompt) :
    Prop where
  /-- Prompts are remembered. -/
  caching_eq : session.generator.caching = true
  /-- This one is. -/
  get?_eq : session.generator.prompts.get? context.key = some prompt

namespace Session

variable {session : Session} {context : PromptContext} {prompt : Prompt}

theorem Remembers.answer (h : session.Remembers context prompt) :
    (session.step (.generate context)).2 = .prompt prompt := by
  have hremembered : session.generator.remembered? context.key = some prompt := by
    rw [Generator.remembered?, if_pos h.caching_eq, h.get?_eq]
  rw [step_generate]
  obtain ⟨other, hother, heq⟩ | ⟨cause, hnone, -⟩ | ⟨loaded, hnone, -⟩ :=
    session.generator.generate_cases session.tree context
  · rw [hremembered] at hother
    cases hother
    rw [heq, Response.ofResult]
  · rw [hremembered] at hnone
    cases hnone
  · rw [hremembered] at hnone
    cases hnone

/-- **A prompt that is given is remembered**, if prompts are. -/
theorem remembers_of_answer (hcaching : session.generator.caching = true)
    (h : (session.step (.generate context)).2 = .prompt prompt) :
    (session.step (.generate context)).1.Remembers context prompt := by
  rw [step_generate] at h ⊢
  obtain ⟨other, hother, heq⟩ | ⟨cause, -, -, heq⟩ | ⟨loaded, -, -, heq⟩ :=
    session.generator.generate_cases session.tree context
  · rw [heq] at h ⊢
    cases h
    rw [Generator.remembered?, if_pos hcaching] at hother
    exact ⟨hcaching, hother⟩
  · rw [heq] at h
    cases h
  · rw [heq] at h ⊢
    cases h
    refine ⟨hcaching, ?_⟩
    simp only [Generator.remember, if_pos hcaching, SortedMap.get?_insert, if_true]

/-- **A request that forgets nothing keeps a prompt that is remembered.** -/
theorem Remembers.step (h : session.Remembers context prompt) {request : Request}
    (hkeeps : ¬ request.Forgets) : (session.step request).1.Remembers context prompt := by
  cases request with
  | generate other =>
      rw [step_generate]
      refine ⟨?_, Generator.get?_prompts_generate h.get?_eq⟩
      rw [session.generator.generate_fst]
      exact h.caching_eq
  | setCaching caching =>
      cases caching with
      | true =>
          -- Switching remembering on forgets nothing.
          exact ⟨rfl, h.get?_eq⟩
      | false => exact absurd rfl hkeeps
  | clear => exact absurd trivial hkeeps
  | write path node => exact ⟨h.caching_eq, h.get?_eq⟩
  | activeRules category => exact h

/-- **So does a run of such requests.** -/
theorem Remembers.run (h : session.Remembers context prompt) {requests : List Request}
    (hkeeps : ∀ request ∈ requests, ¬ request.Forgets) :
    (session.run requests).Remembers context prompt := by
  induction requests generalizing session with
  | nil => exact h
  | cons request requests ih =>
      obtain ⟨hfirst, hrest⟩ := List.forall_mem_cons.mp hkeeps
      exact ih (h.step hfirst) hrest

end Session

/-! ### All of it -/

/-- **What holds of a generator whatever was asked of it**, writing files included.  The templates
that are remembered have no faults and stood in their files since everything was last forgotten;
without remembering there are no prompts; a prompt that cannot be written changes nothing, and one
that is written replaces nothing; and a prompt that is remembered is given again until everything is
forgotten. -/
theorem remembering_sound (tree : FileTree) (registry : Registry) (config : Configuration)
    (directory : String) (withConflicts : Bool) (requests : List Request) :
    let fresh : Session := ⟨tree, .new registry config directory withConflicts⟩
    let session := fresh.run requests
    (∀ category loaded, session.generator.templates.get? category = some loaded →
      Template.isValid loaded.content.toList = true ∧
        ∃ before behind, requests = before ++ behind ∧ (∀ request ∈ behind, ¬ request.Forgets) ∧
          (fresh.run before).tree.readText (templatePath directory category) =
            .ok loaded.content) ∧
    (session.generator.caching = false → session.generator.prompts = .empty) ∧
    ∀ context,
      let after := (session.step (.generate context)).1
      let answer := (session.step (.generate context)).2
      (∀ cause, answer = .failed cause → after = session) ∧
      (∀ prompt, answer = .prompt prompt → session.generator.Keeps after.generator) ∧
      ∀ prompt, session.generator.caching = true → answer = .prompt prompt →
        ∀ later : List Request, (∀ request ∈ later, ¬ request.Forgets) →
          ((after.run later).step (.generate context)).2 = .prompt prompt := by
  intro fresh session
  have hnew : Noted directory (.fresh fresh.tree) fresh :=
    .new tree registry config directory withConflicts
  refine ⟨fun category loaded hget => exists_moment_of_template hnew hget,
    (hnew.run requests).idle, fun context => ?_⟩
  intro after answer
  refine ⟨fun cause hfailed => Session.step_generate_fst_of_failed hfailed,
    fun prompt _ => ?_, fun prompt hcaching hanswer later hlater => ?_⟩
  · have hafter : after.generator = (session.generator.generate session.tree context).1 :=
      congrArg (fun result => result.1.generator) (session.step_generate context)
    rw [hafter]
    exact session.generator.keeps_generate session.tree context
  · exact ((Session.remembers_of_answer hcaching hanswer).run hlater).answer

/-- A prompt is given again although its template was written anew and another prompt could not be
written. -/
theorem templateSession_lasts :
    let context : PromptContext := ⟨some .systems, none, none, none, none⟩
    let later := [.write "templates/systems.md" (.file (.text "second")),
      .generate { context with category := some .kernel }, .setCaching true]
    let prompt : Prompt := ⟨"first", .systems, [], "templates/systems.md"⟩
    let session := ((templateSession "first").step (.generate context)).1
    (∀ request ∈ later, ¬ request.Forgets) ∧
      ((session.run later).step (.generate context)).2 = .prompt prompt := by
  intro context later prompt session
  have hlater : ∀ request ∈ later, ¬ request.Forgets := by
    simp [later, Request.Forgets]
  have hanswer : ((templateSession "first").step (.generate context)).2 = .prompt prompt := by
    decide +kernel
  obtain ⟨-, -, hlasts⟩ := remembering_sound (templateSession "first").tree .empty .standard
    "templates" false []
  exact ⟨hlater, (hlasts context).2.2 prompt rfl hanswer later hlater⟩

end Rulebook.Prompt
