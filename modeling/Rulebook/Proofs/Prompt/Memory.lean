/-
**Which prompt a generator gives, if it remembers some.**

A generator that remembers prompts gives the one that it wrote for the first of the contexts that
have the key of the context it is asked for.  What it remembers can therefore be told from the
requests alone: from the contexts that it was asked for since it last forgot everything, as long as
remembering was switched on.  A context whose template has a fault is among them, although there is
no prompt to remember, because every other context with its key has the same template.

The two are laid side by side, the generator with its map of prompts and the list of contexts, and
go through the requests together.  As long as the files stay, the map holds for each key the prompt
that a new generator writes for the first context with that key, and the templates that are
remembered are those in the files.

Main definitions:

* `Rulebook.Prompt.Recollection` — the contexts that a generator remembers prompts for;
* `Rulebook.Prompt.Mirrors` — a session and a recollection that agree.

Main results:

* `Rulebook.Prompt.Mirrors.step`, `Rulebook.Prompt.Mirrors.run` — they agree after a request, and
  after a run;
* `Rulebook.Prompt.generate_after_run` — **the answer is that of a new generator to the context that
  is recalled**, and to the context itself if the two say the same;
* `Rulebook.Prompt.not_transparent` — it need not be if the code around is another, or if there are
  colons.
-/

import Rulebook.Proofs.Prompt.Run

set_option autoImplicit false

namespace Rulebook.Prompt

/-! ### Requests that keep the files -/

/-- A request that leaves the files as they are. -/
def Request.KeepsFiles : Request → Prop
  | .write _ _ => False
  | _ => True

theorem Generator.answer_congr (tree : FileTree) (g : Generator) {a b : PromptContext}
    (h : a.SaysSame b) : g.answer tree a = g.answer tree b := by
  have hfill : g.fill a.detect a = g.fill b.detect b := funext (g.fill_congr h)
  rw [answer, answer, hfill, h.detect]

/-! ### Recollections -/

/-- Whether prompts are remembered, and the contexts for which they are, the oldest first. -/
structure Recollection where
  /-- Whether prompts are remembered. -/
  caching : Bool
  /-- The contexts that prompts were asked for. -/
  contexts : List PromptContext

namespace Recollection

/-- What a request does to what is remembered. -/
def step (r : Recollection) : Request → Recollection
  | .generate context => if r.caching then { r with contexts := r.contexts ++ [context] } else r
  | .setCaching caching => ⟨caching, if caching then r.contexts else []⟩
  | .clear => { r with contexts := [] }
  | .write _ _ => r
  | .activeRules _ => r

/-- What is remembered after several requests to a new generator. -/
def after (requests : List Request) : Recollection := requests.foldl step ⟨true, []⟩

/-- The first context with a key. -/
def first? (r : Recollection) (key : String) : Option PromptContext :=
  r.contexts.find? fun context => context.key == key

/-- The context whose prompt is given for a context. -/
def recalled (r : Recollection) (context : PromptContext) : PromptContext :=
  (r.first? context.key).getD context

/-- The prompt that a generator should have under a key. -/
def prompt? (tree : FileTree) (g : Generator) (r : Recollection) (key : String) : Option Prompt :=
  (r.first? key).bind fun context => (g.answer tree context).toOption

theorem key_recalled (r : Recollection) (context : PromptContext) :
    (r.recalled context).key = context.key := by
  rw [recalled]
  cases h : r.first? context.key with
  | none => rfl
  | some found =>
      have hkey := List.find?_some h
      exact eq_of_beq hkey

/-- A request for a prompt changes what should be under the key of its context, and nothing else. -/
theorem prompt?_step_generate (tree : FileTree) (g : Generator) (r : Recollection)
    (context : PromptContext) (key : String) :
    (r.step (.generate context)).prompt? tree g key =
      if r.caching = true ∧ context.key = key then (g.answer tree (r.recalled context)).toOption
      else r.prompt? tree g key := by
  cases hcaching : r.caching with
  | false => simp [step, hcaching]
  | true =>
      have hfirst : (r.step (.generate context)).first? key =
          (r.first? key).or (if context.key = key then some context else none) := by
        rw [step, if_pos hcaching, first?, List.find?_append]
        by_cases hkey : context.key = key <;> simp [first?, hkey]
      by_cases hkey : context.key = key
      · subst hkey
        rw [prompt?, hfirst, if_pos rfl, if_pos ⟨rfl, rfl⟩, recalled]
        cases r.first? context.key <;> rfl
      · rw [prompt?, hfirst, if_neg hkey, if_neg (fun h => hkey h.2), Option.or_none, prompt?]

end Recollection

/-! ### A generator and its recollection -/

/-- A session of a generator that began as `g`, over some files, and a recollection of what was asked
agree. -/
structure Mirrors (tree : FileTree) (g : Generator) (r : Recollection) (session : Session) :
    Prop where
  /-- The files are the same. -/
  tree_eq : session.tree = tree
  /-- Only what is remembered has changed. -/
  generator_eq : session.generator =
    { g with
      templates := session.generator.templates
      prompts := session.generator.prompts
      caching := r.caching }
  /-- The templates that are remembered are those in the files. -/
  templates : ∀ category loaded, session.generator.templates.get? category = some loaded →
    readTemplate tree g.templatesDirectory category = .ok loaded
  /-- The prompt under a key is that of the first context with the key. -/
  prompts : ∀ key, session.generator.prompts.get? key = r.prompt? tree g key
  /-- Without caching there is nothing to recall. -/
  idle : r.caching = false → r.contexts = []

namespace Mirrors

variable {tree : FileTree} {g : Generator} {r : Recollection} {session : Session}

theorem caching_eq (h : Mirrors tree g r session) : session.generator.caching = r.caching := by
  rw [h.generator_eq]

theorem fill_eq (h : Mirrors tree g r session) : session.generator.fill = g.fill := by
  rw [h.generator_eq]
  rfl

theorem template_eq (h : Mirrors tree g r session) (category : Category) :
    session.generator.template session.tree category =
      readTemplate tree g.templatesDirectory category := by
  rw [Generator.template]
  cases hget : session.generator.templates.get? category with
  | some loaded => exact (h.templates category loaded hget).symm
  | none =>
      have hdirectory : session.generator.templatesDirectory = g.templatesDirectory := by
        rw [h.generator_eq]
      rw [h.tree_eq, hdirectory]

theorem remembered?_eq (h : Mirrors tree g r session) (key : String) :
    session.generator.remembered? key = r.prompt? tree g key := by
  rw [Generator.remembered?, h.caching_eq, h.prompts]
  split
  · rfl
  · rename_i hoff
    have hnone : r.first? key = none := by
      rw [Recollection.first?, h.idle (Bool.eq_false_iff.mpr hoff), List.find?_nil]
    rw [Recollection.prompt?, hnone, Option.bind_none]

/-- **What comes of asking for a prompt is what comes of asking for the one that is recalled.** -/
theorem generate_snd (h : Mirrors tree g r session) (context : PromptContext) :
    (session.generator.generate session.tree context).2 = g.answer tree (r.recalled context) := by
  have hdetect : (r.recalled context).detect = context.detect :=
    PromptContext.detect_eq_of_key_eq (r.key_recalled context)
  obtain ⟨prompt, hremembered, heq⟩ | ⟨cause, -, htemplate, heq⟩ |
    ⟨loaded, hremembered, htemplate, heq⟩ := session.generator.generate_cases session.tree context
  · -- The prompt that is remembered is that of a context with the key, the recalled one.
    rw [h.remembered?_eq, Recollection.prompt?, Option.bind_eq_some_iff] at hremembered
    obtain ⟨found, hfound, hprompt⟩ := hremembered
    rw [heq, Recollection.recalled, hfound, Option.getD_some]
    cases hanswer : g.answer tree found with
    | error cause =>
        rw [hanswer] at hprompt
        cases hprompt
    | ok other =>
        rw [hanswer] at hprompt
        cases hprompt
        rfl
  · -- The recalled context has the same category, and no template either.
    rw [h.template_eq] at htemplate
    rw [heq, Generator.answer, hdetect, htemplate]
    rfl
  · rw [h.template_eq] at htemplate
    rw [h.remembered?_eq, Recollection.prompt?] at hremembered
    -- A context with the same key would have the same template, and so a prompt to remember.
    have hnone : r.first? context.key = none := by
      refine Option.eq_none_iff_forall_ne_some.mpr fun found hfound => ?_
      have hsame : found.detect = context.detect := by
        rw [Recollection.recalled, hfound] at hdetect
        exact hdetect
      rw [hfound, Option.bind_some, Generator.answer, hsame, htemplate] at hremembered
      cases hremembered
    rw [heq, Recollection.recalled, hnone, Option.getD_none, Generator.answer, htemplate,
      h.fill_eq]
    rfl

/-- Asking for a prompt changes what is remembered under its key as it should. -/
theorem prompts_generate (h : Mirrors tree g r session) (context : PromptContext) (key : String) :
    (session.generator.generate session.tree context).1.prompts.get? key =
      (r.step (.generate context)).prompt? tree g key := by
  have hanswer := h.generate_snd context
  rw [Recollection.prompt?_step_generate, ← hanswer]
  -- Nothing changes if what comes of the request is what was remembered, or was not.
  have hkept (hsame : (session.generator.generate session.tree context).1 = session.generator)
      (hremembered : session.generator.remembered? context.key =
        (session.generator.generate session.tree context).2.toOption) :
      (session.generator.generate session.tree context).1.prompts.get? key =
        if r.caching = true ∧ context.key = key then
          (session.generator.generate session.tree context).2.toOption
        else r.prompt? tree g key := by
    rw [h.remembered?_eq] at hremembered
    rw [hsame, h.prompts]
    split
    · rename_i hkey
      rw [← hkey.2, hremembered]
    · rfl
  obtain ⟨prompt, hremembered, heq⟩ | ⟨cause, hremembered, -, heq⟩ | ⟨loaded, -, -, heq⟩ :=
    session.generator.generate_cases session.tree context
  · exact hkept (by rw [heq]) (by rw [heq, hremembered]; rfl)
  · exact hkept (by rw [heq]) (by rw [heq, hremembered]; rfl)
  · rw [heq]
    simp only [Generator.remember, h.caching_eq]
    cases hcaching : r.caching with
    | false => simp [h.prompts]
    | true =>
        simp only [if_true, SortedMap.get?_insert, h.prompts, true_and, eq_comm (a := key)]
        rfl

/-- **After a request for a prompt the two agree.** -/
theorem generate (h : Mirrors tree g r session) (context : PromptContext) :
    Mirrors tree g (r.step (.generate context)) (session.step (.generate context)).1 := by
  have hcaching : (r.step (.generate context)).caching = r.caching := by
    rw [Recollection.step]
    split <;> rfl
  rw [Session.step_generate]
  refine ⟨h.tree_eq, ?_, fun category loaded hget => ?_, h.prompts_generate context, ?_⟩
  · have hkeeps := session.generator.generate_fst session.tree context
    generalize (session.generator.generate session.tree context).1 = after at hkeeps ⊢
    rw [hkeeps, h.generator_eq, hcaching]
  · rw [← h.template_eq]
    exact Generator.templates_generate hget
  · intro hoff
    rw [hcaching] at hoff
    rw [Recollection.step, if_neg (by simp [hoff])]
    exact h.idle hoff

/-- **After a request that keeps the files the two agree.** -/
theorem step (h : Mirrors tree g r session) {request : Request} (hkeep : request.KeepsFiles) :
    Mirrors tree g (r.step request) (session.step request).1 := by
  cases request with
  | generate context => exact h.generate context
  | setCaching caching =>
      cases caching with
      | true =>
          refine ⟨h.tree_eq, ?_, h.templates, h.prompts, fun hoff => ?_⟩
          · simp only [Session.step, Generator.setCaching, Recollection.step]
            rw [h.generator_eq]
            rfl
          · cases hoff
      | false =>
          refine ⟨h.tree_eq, ?_, fun category loaded hget => ?_, fun key => ?_, fun _ => rfl⟩
          · simp only [Session.step, Generator.setCaching, Generator.clear, Recollection.step]
            rw [h.generator_eq]
            rfl
          · cases hget
          · rfl
  | clear =>
      refine ⟨h.tree_eq, ?_, fun category loaded hget => ?_, fun key => ?_, fun _ => rfl⟩
      · simp only [Session.step, Generator.clear, Recollection.step]
        rw [h.generator_eq]
      · cases hget
      · rfl
  | write path node => exact hkeep.elim
  | activeRules category => exact h

/-- **After a run that keeps the files the two agree.** -/
theorem run (h : Mirrors tree g r session) {requests : List Request}
    (hkeep : ∀ request ∈ requests, request.KeepsFiles) :
    Mirrors tree g (requests.foldl Recollection.step r) (session.run requests) := by
  induction requests generalizing r session with
  | nil => exact h
  | cons request requests ih =>
      obtain ⟨hfirst, hrest⟩ := List.forall_mem_cons.mp hkeep
      exact ih (h.step hfirst) hrest

/-- A generator that remembers nothing yet agrees with an empty recollection. -/
theorem new (tree : FileTree) (registry : Registry) (config : Configuration) (directory : String)
    (withConflicts : Bool) :
    Mirrors tree (.new registry config directory withConflicts) ⟨true, []⟩
      ⟨tree, .new registry config directory withConflicts⟩ where
  tree_eq := rfl
  generator_eq := rfl
  templates := fun category loaded hget => by cases hget
  prompts := fun key => rfl
  idle := fun hoff => by cases hoff

end Mirrors

/-! ### Answers -/

/-- The answer to a request for a prompt, in a session that agrees with a recollection. -/
theorem Mirrors.answer_eq {tree : FileTree} {g : Generator} {r : Recollection} {session : Session}
    (h : Mirrors tree g r session) (context : PromptContext) :
    (session.step (.generate context)).2 = .ofResult (g.answer tree (r.recalled context)) := by
  rw [Session.step_generate, h.generate_snd]

/-- **What a generator answers after any requests that keep the files.**  It is what a new generator
answers to the context that is recalled.  That is the answer to the context itself if the two say
the same; and they do if the code around is the same and no path or name has a colon. -/
theorem generate_after_run (tree : FileTree) (registry : Registry) (config : Configuration)
    (directory : String) (withConflicts : Bool) {requests : List Request}
    (hkeep : ∀ request ∈ requests, request.KeepsFiles) (context : PromptContext) :
    let fresh : Session := ⟨tree, .new registry config directory withConflicts⟩
    let recalled := (Recollection.after requests).recalled context
    ((fresh.run requests).step (.generate context)).2 = (fresh.step (.generate recalled)).2 ∧
      (recalled.SaysSame context →
        ((fresh.run requests).step (.generate context)).2 =
          (fresh.step (.generate context)).2) ∧
      (recalled.ColonFree → context.ColonFree →
        recalled.codeContext.getD "" = context.codeContext.getD "" →
          recalled.SaysSame context) := by
  intro fresh recalled
  have hnew := Mirrors.new tree registry config directory withConflicts
  have hrun : ((fresh.run requests).step (.generate context)).2 =
      (fresh.step (.generate recalled)).2 := by
    rw [(hnew.run hkeep).answer_eq context, hnew.answer_eq recalled]
    rfl
  refine ⟨hrun, fun hsame => ?_, fun hrecalled hcontext hcode => ?_⟩
  · rw [hrun, hnew.answer_eq recalled, hnew.answer_eq context]
    exact congrArg Response.ofResult (fresh.generator.answer_congr tree hsame)
  · exact PromptContext.saysSame_of_key_eq ((Recollection.after requests).key_recalled context)
      hrecalled hcontext hcode

/-- A new generator with a template that shows a path, a function and the code around. -/
def shownSession : Session where
  tree := (FileTree.empty "/project").write "templates/systems.md"
    (.file (.text (Text.braced "file_path" ++ " " ++ Text.braced "function_name" ++ ": " ++
      Text.braced "code_context")))
  generator := .new .empty .standard "templates" false

/-- What is asked for a function in a file. -/
def askedFor (path function code : String) : PromptContext where
  category := some .systems
  filePath := some path
  functionName := some function
  fileType := none
  codeContext := some code

/-- A prompt is remembered for a context, and given again for one that has an empty text where the
first one has none. -/
theorem shownSession_answers :
    let asked := askedFor "main.c" "start" "int x;"
    let again := { asked with fileType := some "" }
    let requests := [.generate asked, .setCaching true, .activeRules .kernel]
    (∀ request ∈ requests, request.KeepsFiles) ∧
      (Recollection.after requests).recalled again = asked ∧ asked.SaysSame again ∧
      ((shownSession.run requests).step (.generate again)).2 =
        (shownSession.step (.generate asked)).2 ∧
      ((shownSession.run requests).step (.generate again)).2 =
        (shownSession.step (.generate again)).2 := by
  intro asked again requests
  have hkeep : ∀ request ∈ requests, request.KeepsFiles := by
    simp [requests, Request.KeepsFiles]
  have hrecalled : (Recollection.after requests).recalled again = asked := by decide +kernel
  obtain ⟨hanswer, hsame, hkeys⟩ := generate_after_run shownSession.tree .empty .standard
    "templates" false hkeep again
  rw [hrecalled] at hanswer hsame hkeys
  have hfree : asked.ColonFree ∧ again.ColonFree := by
    constructor <;> constructor <;> decide
  have hsays : asked.SaysSame again := hkeys hfree.1 hfree.2 rfl
  exact ⟨hkeep, hrecalled, hsays, hanswer, hsame hsays⟩

/-- A prompt is given again for a context with other code around, and for one with the same text in
its key but the colons elsewhere. -/
theorem not_transparent :
    ((shownSession.run [.generate (askedFor "main.c" "start" "int x;")]).step
        (.generate (askedFor "main.c" "start" "int y;"))).2 ≠
      (shownSession.step (.generate (askedFor "main.c" "start" "int y;"))).2 ∧
    ((shownSession.run [.generate (askedFor "a:b" "c" "int x;")]).step
        (.generate (askedFor "a" "b:c" "int x;"))).2 ≠
      (shownSession.step (.generate (askedFor "a" "b:c" "int x;"))).2 := by
  decide +kernel

end Rulebook.Prompt
