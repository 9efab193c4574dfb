/-
**Which files a prompt is written from.**

Switching remembering off concerns prompts.  The templates that were read are remembered all the
same, so a prompt is written from the file of its template as it was when the template was read, and
that may be another file by now.  Which files count can be told from the requests and the files
alone: for each category those at the first request, since everything was last forgotten, at which
there was a template without faults; and the files as they are, as long as there was no such request.

The requests are followed by readings, which note the files and, for each category, the files that
its template was read from.  A session and its readings agree at the beginning, and every request
keeps them so.  The case that needs an argument is a prompt that is remembered: its template is not
looked at again, and the readings would be wrong if it had been forgotten before the prompt; but a
generator forgets the two together.

Main definitions:

* `Rulebook.Prompt.Readings`, `Rulebook.Prompt.Readings.sourceOf` — the files that templates were
  read from, and those that the next prompt for a category is written from;
* `Rulebook.Prompt.Noted` — a session and readings that agree.

Main results:

* `Rulebook.Prompt.Noted.step`, `Rulebook.Prompt.Noted.run` — they agree after a request, and after
  a run;
* `Rulebook.Prompt.Noted.exists_moment` — the files that count were there since everything was
  last forgotten;
* `Rulebook.Prompt.generate_while_off` — **without remembering, the answer is that of a new generator
  to the files that count**, and to the files as they are if the template is the same in both;
* `Rulebook.Prompt.not_current` — it need not be the answer to the files as they are.
-/

import Mathlib.Data.List.Induction
import Rulebook.Proofs.Prompt.Run

set_option autoImplicit false

namespace Rulebook.Prompt

/-! ### Templates in files -/

/-- A template that is read is what the file of the category holds, and has no faults. -/
theorem readTemplate_eq_ok {tree : FileTree} {directory : String} {category : Category}
    {loaded : LoadedTemplate} (h : readTemplate tree directory category = .ok loaded) :
    loaded.path = templatePath directory category ∧
      tree.readText (templatePath directory category) = .ok loaded.content ∧
      Template.isValid loaded.content.toList = true := by
  rw [readTemplate] at h
  split at h
  · cases h
  · rename_i content hread
    split at h
    · rename_i hvalid
      cases h
      exact ⟨rfl, hread, hvalid⟩
    · cases h

theorem readTemplate_congr {tree tree' : FileTree} {directory : String} {category : Category}
    (h : tree.readText (templatePath directory category) =
      tree'.readText (templatePath directory category)) :
    readTemplate tree directory category = readTemplate tree' directory category := by
  simp only [readTemplate, h]

/-! ### Readings -/

/-- The files, and for each category the files that its template was read from. -/
structure Readings where
  /-- The files. -/
  tree : FileTree
  /-- The files that the template of a category was read from, if it is remembered. -/
  source? : Category → Option FileTree

namespace Readings

/-- The files that the next prompt for a category is written from. -/
def sourceOf (r : Readings) (category : Category) : FileTree := (r.source? category).getD r.tree

def fresh (tree : FileTree) : Readings := ⟨tree, fun _ => none⟩

/-- What a request does to the readings, given the directory of the templates. -/
def step (directory : String) (r : Readings) : Request → Readings
  | .generate context =>
    let files := r.sourceOf context.detect
    { r with
      source? := fun category =>
        if category = context.detect ∧ (readTemplate files directory category).isOk then some files
        else r.source? category }
  | .setCaching caching => if caching then r else fresh r.tree
  | .clear => fresh r.tree
  | .write path node => { r with tree := r.tree.write path node }
  | .activeRules _ => r

/-- The readings after several requests to a new generator. -/
def after (directory : String) (tree : FileTree) (requests : List Request) : Readings :=
  requests.foldl (step directory) (fresh tree)

/-- A request for a prompt does not change which files count. -/
theorem sourceOf_step_generate (directory : String) (r : Readings) (context : PromptContext)
    (category : Category) :
    (r.step directory (.generate context)).sourceOf category = r.sourceOf category := by
  show (if category = context.detect ∧
      (readTemplate (r.sourceOf context.detect) directory category).isOk then
        some (r.sourceOf context.detect) else r.source? category).getD r.tree = r.sourceOf category
  by_cases h : category = context.detect ∧
      (readTemplate (r.sourceOf context.detect) directory category).isOk
  · rw [if_pos h, Option.getD_some, h.1]
  · rw [if_neg h]
    rfl

theorem source?_step_generate {directory : String} {r : Readings} {context : PromptContext}
    {loaded : LoadedTemplate}
    (h : readTemplate (r.sourceOf context.detect) directory context.detect = .ok loaded)
    (category : Category) :
    (r.step directory (.generate context)).source? category =
      if category = context.detect then some (r.sourceOf context.detect)
      else r.source? category := by
  simp only [step]
  by_cases hcategory : category = context.detect
  · rw [hcategory, h]
    simp [Except.isOk, Except.toBool]
  · simp [hcategory]

theorem after_concat (directory : String) (tree : FileTree) (requests : List Request)
    (request : Request) :
    after directory tree (requests ++ [request]) =
      (after directory tree requests).step directory request := by
  rw [after, List.foldl_append]
  rfl

end Readings

/-! ### A session and its readings -/

/-- A session whose templates are in a directory and some readings agree. -/
structure Noted (directory : String) (r : Readings) (session : Session) : Prop where
  /-- The files are the same. -/
  tree_eq : session.tree = r.tree
  /-- The templates are in the directory. -/
  directory_eq : session.generator.templatesDirectory = directory
  /-- A template that was read is remembered as it was then. -/
  read : ∀ category files, r.source? category = some files →
    ∃ loaded, readTemplate files directory category = .ok loaded ∧
      session.generator.templates.get? category = some loaded
  /-- No other template is remembered. -/
  unread : ∀ category, r.source? category = none →
    session.generator.templates.get? category = none
  /-- The template of a prompt that is remembered was read. -/
  backed : ∀ (context : PromptContext) prompt,
    session.generator.prompts.get? context.key = some prompt → r.source? context.detect ≠ none
  /-- Without remembering there are no prompts. -/
  idle : session.generator.caching = false → session.generator.prompts = .empty

namespace Noted

variable {directory : String} {r : Readings} {session : Session}

/-- **The template that a prompt is written from is the one in the files that count.** -/
theorem template_eq (h : Noted directory r session) (category : Category) :
    session.generator.template session.tree category =
      readTemplate (r.sourceOf category) directory category := by
  rw [Generator.template, Readings.sourceOf]
  cases hsource : r.source? category with
  | some files =>
      obtain ⟨loaded, hread, hget⟩ := h.read category files hsource
      rw [hget, Option.getD_some, hread]
  | none => rw [h.unread category hsource, Option.getD_none, h.tree_eq, h.directory_eq]

/-- If there is no template to be read, or if it was read before, nothing new is read. -/
theorem step_generate_eq (h : Noted directory r session) {context : PromptContext}
    (hold : r.source? context.detect ≠ none ∨
      ∃ cause, session.generator.template session.tree context.detect = .error cause) :
    r.step directory (.generate context) = r := by
  have hsource (category : Category) :
      (r.step directory (.generate context)).source? category = r.source? category := by
    simp only [Readings.step]
    split
    · rename_i hread
      obtain ⟨rfl, hok⟩ := hread
      rcases hold with hsome | ⟨cause, herror⟩
      · obtain ⟨files, hfiles⟩ := Option.ne_none_iff_exists'.mp hsome
        rw [Readings.sourceOf, hfiles, Option.getD_some]
      · rw [← h.template_eq, herror] at hok
        cases hok
    · rfl
  exact congrArg (Readings.mk r.tree) (funext hsource)

/-- **After a request for a prompt the two agree.** -/
theorem generate (h : Noted directory r session) (context : PromptContext) :
    Noted directory (r.step directory (.generate context))
      (session.step (.generate context)).1 := by
  rw [Session.step_generate]
  obtain ⟨prompt, hremembered, heq⟩ | ⟨cause, -, htemplate, heq⟩ | ⟨loaded, -, htemplate, heq⟩ :=
    session.generator.generate_cases session.tree context
  · -- The prompt is remembered, and so is the template that it was written from.
    have hget : session.generator.prompts.get? context.key = some prompt := by
      rw [Generator.remembered?] at hremembered
      split at hremembered
      · exact hremembered
      · cases hremembered
    rw [heq, h.step_generate_eq (Or.inl (h.backed context prompt hget))]
    exact h
  · rw [heq, h.step_generate_eq (Or.inr ⟨cause, htemplate⟩)]
    exact h
  · rw [heq]
    rw [h.template_eq] at htemplate
    have hsource := Readings.source?_step_generate htemplate
    refine ⟨h.tree_eq, h.directory_eq, fun category files hfiles => ?_, fun category hnone => ?_,
      fun other prompt hget => ?_, fun hoff => ?_⟩
    · rw [hsource] at hfiles
      simp only [Generator.remember, SortedMap.get?_insert]
      by_cases hcategory : category = context.detect
      · rw [if_pos hcategory] at hfiles
        cases hfiles
        exact ⟨loaded, hcategory ▸ htemplate, if_pos hcategory⟩
      · rw [if_neg hcategory] at hfiles
        rw [if_neg hcategory]
        exact h.read category files hfiles
    · rw [hsource] at hnone
      simp only [Generator.remember, SortedMap.get?_insert]
      by_cases hcategory : category = context.detect
      · rw [if_pos hcategory] at hnone
        cases hnone
      · rw [if_neg hcategory] at hnone
        rw [if_neg hcategory]
        exact h.unread category hnone
    · rw [hsource]
      by_cases hcategory : other.detect = context.detect
      · rw [if_pos hcategory]
        exact Option.some_ne_none _
      · -- A prompt for another category has another key, so it was there before.
        rw [if_neg hcategory]
        have hne : other.key ≠ context.key := fun hkey =>
          hcategory (PromptContext.detect_eq_of_key_eq hkey)
        refine h.backed other prompt ?_
        simp only [Generator.remember] at hget
        split at hget
        · rw [SortedMap.get?_insert, if_neg hne] at hget
          exact hget
        · exact hget
    · have hcaching : session.generator.caching = false := hoff
      simp only [Generator.remember, hcaching]
      exact h.idle hcaching

theorem forget (h : Noted directory r session) (caching : Bool) :
    Noted directory (.fresh r.tree)
      ⟨session.tree, { session.generator.clear with caching := caching }⟩ where
  tree_eq := h.tree_eq
  directory_eq := h.directory_eq
  read := fun category files hfiles => by cases hfiles
  unread := fun category _ => rfl
  backed := fun context prompt hget => by cases hget
  idle := fun _ => rfl

/-- **After a request the two agree.** -/
theorem step (h : Noted directory r session) (request : Request) :
    Noted directory (r.step directory request) (session.step request).1 := by
  cases request with
  | generate context => exact h.generate context
  | setCaching caching =>
      cases caching with
      | true => exact ⟨h.tree_eq, h.directory_eq, h.read, h.unread, h.backed, fun hoff => by cases hoff⟩
      | false => exact h.forget false
  | clear => exact h.forget session.generator.caching
  | write path node =>
      refine ⟨?_, h.directory_eq, h.read, h.unread, h.backed, h.idle⟩
      exact congrArg (FileTree.write · path node) h.tree_eq
  | activeRules category => exact h

/-- **After a run the two agree.** -/
theorem run (h : Noted directory r session) (requests : List Request) :
    Noted directory (requests.foldl (Readings.step directory) r) (session.run requests) := by
  induction requests generalizing r session with
  | nil => exact h
  | cons request requests ih => exact ih (h.step request)

theorem new (tree : FileTree) (registry : Registry) (config : Configuration) (directory : String)
    (withConflicts : Bool) :
    Noted directory (.fresh tree) ⟨tree, .new registry config directory withConflicts⟩ where
  tree_eq := rfl
  directory_eq := rfl
  read := fun category files hfiles => by cases hfiles
  unread := fun category _ => rfl
  backed := fun context prompt hget => by cases hget
  idle := fun hoff => by cases hoff

theorem answer_eq (h : Noted directory r session) (hoff : session.generator.caching = false)
    (context : PromptContext) :
    (session.step (.generate context)).2 =
      .ofResult (session.generator.answer (r.sourceOf context.detect) context) := by
  have hnone : session.generator.remembered? context.key = none := by
    rw [Generator.remembered?, hoff]
    rfl
  rw [Session.step_generate, Generator.generate_snd_of_remembered?_eq_none hnone, h.template_eq,
    Generator.answer, h.directory_eq]

end Noted

/-! ### The files that count -/

/-- **The files that count were there since everything was last forgotten.** -/
theorem Noted.exists_moment {directory : String} {start : Session}
    (h : Noted directory (.fresh start.tree) start) (requests : List Request)
    (category : Category) :
    ∃ before behind, requests = before ++ behind ∧ (∀ request ∈ behind, ¬ request.Forgets) ∧
      (Readings.after directory start.tree requests).sourceOf category =
        (start.run before).tree := by
  induction requests using List.reverseRecOn with
  | nil => exact ⟨[], [], rfl, by simp, rfl⟩
  | append_singleton requests request ih =>
      have htree : (Readings.after directory start.tree (requests ++ [request])).tree =
          (start.run (requests ++ [request])).tree := (h.run (requests ++ [request])).tree_eq.symm
      -- The files that count are those that counted before, or else those that are there now.
      have hkept (hforgets : ¬ request.Forgets)
          (hsame : (Readings.after directory start.tree (requests ++ [request])).sourceOf category =
            (Readings.after directory start.tree requests).sourceOf category) :
          ∃ before behind, requests ++ [request] = before ++ behind ∧
            (∀ other ∈ behind, ¬ other.Forgets) ∧
            (Readings.after directory start.tree (requests ++ [request])).sourceOf category =
              (start.run before).tree := by
        obtain ⟨before, behind, rfl, hbehind, hsource⟩ := ih
        refine ⟨before, behind ++ [request], List.append_assoc _ _ _, ?_, hsame.trans hsource⟩
        intro other hother
        rcases List.mem_append.mp hother with hother | hother
        · exact hbehind other hother
        · rw [List.mem_singleton.mp hother]
          exact hforgets
      have hnow (hnone : (Readings.after directory start.tree (requests ++ [request])).source?
          category = none) :
          ∃ before behind, requests ++ [request] = before ++ behind ∧
            (∀ other ∈ behind, ¬ other.Forgets) ∧
            (Readings.after directory start.tree (requests ++ [request])).sourceOf category =
              (start.run before).tree := by
        refine ⟨requests ++ [request], [], (List.append_nil _).symm, by simp, ?_⟩
        rw [Readings.sourceOf, hnone, Option.getD_none, htree]
      rw [Readings.after_concat] at hkept hnow ⊢
      cases request with
      | generate context =>
          exact hkept (fun hforgets => hforgets)
            (Readings.sourceOf_step_generate directory _ context category)
      | setCaching caching =>
          cases caching with
          | true => exact hkept (fun hforgets => by cases hforgets) rfl
          | false => exact hnow rfl
      | clear => exact hnow rfl
      | write path node =>
          cases hsource : (Readings.after directory start.tree requests).source? category with
          | none => exact hnow hsource
          | some files =>
              refine hkept (fun hforgets => hforgets) ?_
              have hwritten : ((Readings.after directory start.tree requests).step directory
                  (.write path node)).source? category = some files := hsource
              rw [Readings.sourceOf, Readings.sourceOf, hsource, hwritten]
              rfl
      | activeRules other => exact hkept (fun hforgets => hforgets) rfl

/-! ### Answers -/

theorem Generator.answer_eq_of_readText {tree tree' : FileTree} (g : Generator)
    (context : PromptContext)
    (h : tree.readText (templatePath g.templatesDirectory context.detect) =
      tree'.readText (templatePath g.templatesDirectory context.detect)) :
    g.answer tree context = g.answer tree' context := by
  rw [answer, answer, readTemplate_congr h]

/-- If there is no prompt in the files that count, these are the files as they are. -/
theorem Noted.sourceOf_eq_of_error {directory : String} {r : Readings} {session : Session}
    (h : Noted directory r session) {category : Category} {cause : Failure}
    (herror : readTemplate (r.sourceOf category) directory category = .error cause) :
    r.sourceOf category = session.tree := by
  cases hsource : r.source? category with
  | none => rw [Readings.sourceOf, hsource, Option.getD_none, h.tree_eq]
  | some files =>
      -- A template was read from the files that are noted.
      obtain ⟨loaded, hread, -⟩ := h.read category files hsource
      rw [Readings.sourceOf, hsource, Option.getD_some, hread] at herror
      cases herror

/-- **What a generator answers while prompts are not remembered**, after any requests, writing files
among them.  It is what a new generator answers to the files that count for the category, and these
were there since everything was last forgotten.  It is the answer to the files as they are if there
is no prompt, or if the file of the template holds now what it held then. -/
theorem generate_while_off (tree : FileTree) (registry : Registry) (config : Configuration)
    (directory : String) (withConflicts : Bool) {requests : List Request}
    (hoff : ((⟨tree, .new registry config directory withConflicts⟩ : Session).run
      requests).generator.caching = false) (context : PromptContext) :
    let start (files : FileTree) : Session :=
      ⟨files, .new registry config directory withConflicts⟩
    let session := (start tree).run requests
    let source := (Readings.after directory tree requests).sourceOf context.detect
    let path := templatePath directory context.detect
    let answer := (session.step (.generate context)).2
    let current := ((start session.tree).step (.generate context)).2
    answer = ((start source).step (.generate context)).2 ∧
      (∃ before behind, requests = before ++ behind ∧ (∀ request ∈ behind, ¬ request.Forgets) ∧
        source = ((start tree).run before).tree) ∧
      (∀ cause, answer = .failed cause → current = .failed cause) ∧
      (source.readText path = session.tree.readText path → answer = current) := by
  intro start session source path answer current
  have hnoted : Noted directory (Readings.after directory tree requests) session :=
    (Noted.new tree registry config directory withConflicts).run requests
  have hfresh : Noted directory (.fresh (start tree).tree) (start tree) :=
    .new tree registry config directory withConflicts
  have hsettings := (start tree).sameSettings_run requests
  have hanswer : answer = .ofResult ((start tree).generator.answer source context) :=
    (hnoted.answer_eq hoff context).trans
      (congrArg Response.ofResult (hsettings.answer_eq source context))
  have hcurrent : current = .ofResult ((start tree).generator.answer session.tree context) :=
    Session.step_generate_new session.tree registry config directory withConflicts context
  refine ⟨?_, hfresh.exists_moment requests context.detect, fun cause hfailed => ?_,
    fun htext => ?_⟩
  · exact hanswer.trans
      (Session.step_generate_new source registry config directory withConflicts context).symm
  · have hsource : source = session.tree := by
      cases hread : readTemplate source directory context.detect with
      | error other => exact hnoted.sourceOf_eq_of_error hread
      | ok loaded =>
          -- A template without faults always gives a prompt.
          have hprompt : (start tree).generator.answer source context =
              .ok ((start tree).generator.fill context.detect context loaded) :=
            congrArg (Except.map _) hread
          have hwritten := (hanswer.trans (congrArg Response.ofResult hprompt)).symm.trans hfailed
          cases hwritten
    rw [hsource] at hanswer
    exact hcurrent.trans (hanswer.symm.trans hfailed)
  · rw [hanswer, hcurrent]
    exact congrArg Response.ofResult
      ((start tree).generator.answer_eq_of_readText context htext)

/-- A new generator with one template. -/
def templateSession (text : String) : Session where
  tree := (FileTree.empty "/project").write "templates/systems.md" (.file (.text text))
  generator := .new .empty .standard "templates" false

/-- A template was read before it was written anew, and another one was read since everything was
forgotten. -/
theorem templateSession_answers :
    let context : PromptContext := ⟨some .systems, none, none, none, none⟩
    let rewrite (text : String) := Request.write "templates/systems.md" (.file (.text text))
    let requests := [.setCaching false, .generate context, rewrite "second", .clear,
      .generate context, rewrite "third"]
    let session := (templateSession "first").run requests
    session.generator.caching = false ∧
      (session.step (.generate context)).2 =
        ((templateSession "second").step (.generate context)).2 := by
  intro context rewrite requests session
  have hoff : session.generator.caching = false := by decide +kernel
  obtain ⟨hanswer, -⟩ := generate_while_off (templateSession "first").tree .empty .standard
    "templates" false hoff context
  refine ⟨hoff, hanswer.trans ?_⟩
  decide +kernel

/-- A prompt is written from a template that is not in the files any more, although prompts are not
remembered. -/
theorem not_current :
    let context : PromptContext := ⟨some .systems, none, none, none, none⟩
    let session := (templateSession "first").run [.setCaching false, .generate context,
      .write "templates/systems.md" (.file (.text "second"))]
    session.generator.caching = false ∧
      (session.step (.generate context)).2 ≠
        ((⟨session.tree, .new .empty .standard "templates" false⟩ : Session).step
          (.generate context)).2 := by
  decide +kernel

end Rulebook.Prompt
