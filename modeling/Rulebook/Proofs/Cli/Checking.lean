/-
**A project that was checked gives prompts.**

Checking a project reads every template below its directory and every rule document; it succeeds
exactly if all templates can be read and are accepted and no document is left out
(`Rulebook.Cli.isSuccess_validate_iff`).  A prompt is written from one template, which is looked for
by the name of a category.  The two ways to the file, the walk through the directory and the path
with the name behind it, meet in the same document.  So after a successful check every category with
a template has its prompt; and where a template that is not a text, or that is not accepted, keeps a
prompt from being written, the check fails.

Main definitions:

* `Rulebook.Cli.Sound` — whether a template can be read and is accepted;
* `Rulebook.Prompt.Failure.IsFault` — whether the fault is in what the template holds.

Main results:

* `Rulebook.Cli.isSuccess_validate_iff` — when checking a project succeeds;
* `Rulebook.Prompt.Generator.exists_prompt_iff` — when there is a prompt;
* `Rulebook.Cli.checked_prompts` — **a project that was checked gives prompts**, and a template that
  fails for what it holds fails the check.
-/

import Rulebook.Cli.Run
import Rulebook.Proofs.FileTree.Content
import Rulebook.Proofs.FileTree.Direct
import Rulebook.Proofs.Prompt.Reading

set_option autoImplicit false

namespace Rulebook

/-! ### Checking -/

namespace Cli

/-- Whether a template can be read and is accepted. -/
def Sound (tree : FileTree) (path : String) : Prop :=
  ∃ content, tree.readText path = .ok content ∧ Template.isValid content.toList = true

theorem sound_of_readText {tree : FileTree} {path content : String}
    (h : tree.readText path = .ok content) :
    Sound tree path ↔ Template.isValid content.toList = true := by
  constructor
  · rintro ⟨other, hother, hvalid⟩
    rw [h] at hother
    cases hother
    exact hvalid
  · exact fun hvalid => ⟨content, h, hvalid⟩

theorem Findings.faulty_withTemplate (f : Findings) (path : String) (content : List Char) :
    (f.withTemplate path content).faulty =
      f.faulty + if Template.isValid content then 0 else 1 := by
  rw [Findings.withTemplate]
  split <;> rfl

/-- Templates are checked without finding a fault exactly if there was none before and all of them
are sound. -/
theorem checkTemplates_clean_iff (tree : FileTree) (f : Findings) (paths : List String) :
    ((checkTemplates tree f paths).2 = [] ∧ (checkTemplates tree f paths).1.faulty = 0) ↔
      f.faulty = 0 ∧ ∀ path ∈ paths, Sound tree path := by
  induction paths generalizing f with
  | nil => simp [checkTemplates]
  | cons path rest ih =>
      rw [checkTemplates, List.forall_mem_cons]
      cases hread : tree.readText path with
      | error cause =>
          have hnot : ¬ Sound tree path := by
            rintro ⟨content, hcontent, -⟩
            rw [hread] at hcontent
            cases hcontent
          simp [hnot]
      | ok content =>
          rw [ih, Findings.faulty_withTemplate, sound_of_readText hread]
          cases Template.isValid content.toList <;> simp

theorem Findings.faulty_withRegistry (f : Findings) (registry : Registry) :
    (f.withRegistry registry).faulty = f.faulty + registry.errors.length := by
  have hfaults (errors : List LoadError) (f : Findings) :
      (errors.foldl
        (fun f e => f.withFault ("error: " ++ e.path ++ ": " ++ e.message)) f).faulty =
        f.faulty + errors.length := by
    induction errors generalizing f with
    | nil => rfl
    | cons e rest ih =>
        rw [List.foldl_cons, ih, List.length_cons]
        show f.faulty + 1 + rest.length = f.faulty + (rest.length + 1)
        omega
  exact hfaults registry.errors f

theorem Findings.isSuccess_outcome_iff (f : Findings) (failure : List Wording) :
    (f.outcome failure).isSuccess = true ↔ failure = [] ∧ f.faulty = 0 := by
  cases failure with
  | nil => by_cases h : f.faulty = 0 <;> simp [Findings.outcome, Outcome.isSuccess, h]
  | cons first rest => simp [Findings.outcome, Outcome.isSuccess]

/-- **Checking a project succeeds** exactly if all its templates are sound and no rule document is
left out. -/
theorem isSuccess_validate_iff (tree : FileTree) (w : Workspace) :
    (validate tree w []).isSuccess = true ↔
      (∀ path ∈ templatesBelow tree w.templatesDirectory, Sound tree path) ∧
        (Registry.ofDirectory tree w.rulesDirectory).errors = [] := by
  have hclean := checkTemplates_clean_iff tree .empty (templatesBelow tree w.templatesDirectory)
  rw [validate, if_pos List.isEmpty_nil]
  split
  · rename_i f hchecked
    rw [hchecked] at hclean
    rw [Findings.isSuccess_outcome_iff, Findings.faulty_withRegistry, Nat.add_eq_zero_iff,
      List.length_eq_zero_iff, ← and_assoc]
    refine and_congr_left fun _ => hclean.trans ?_
    exact and_iff_right rfl
  · rename_i f failure hfailure hchecked
    rw [hchecked] at hclean
    rw [Findings.isSuccess_outcome_iff]
    constructor
    · exact fun h => absurd h.1 hfailure
    · exact fun h => absurd (hclean.mpr ⟨rfl, h.1⟩).1 hfailure

/-- The templates below a directory are the documents there. -/
theorem templatesBelow_eq {tree : FileTree} {directory : String}
    (h : tree.isDirectory directory = true) :
    templatesBelow tree directory = tree.documents directory := by
  rw [templatesBelow, FileTree.walk_eq h, FileTree.documents]

end Cli

/-! ### Prompts -/

namespace Prompt

/-- The name of the file with the template of a category. -/
def templateName (category : Category) : String := category.name ++ ".md"

theorem isName_templateName (category : Category) : Path.IsName (templateName category) := by
  cases category <;> decide

theorem templateName_ne_dots (category : Category) :
    templateName category ≠ "." ∧ templateName category ≠ ".." := by
  cases category <;> decide

theorem isDocument_templatePath (directory : String) (category : Category) :
    Path.isDocument (templatePath directory category) = true := by
  obtain ⟨hhere, hup⟩ := templateName_ne_dots category
  refine (Path.isDocument_join directory (isName_templateName category) hhere hup).trans ?_
  cases category <;> decide

/-- A template directly in a directory is among those that are checked. -/
theorem templatePath_mem {tree : FileTree} {directory : String} {category : Category}
    (h : tree.HasFile directory [templateName category]) :
    templatePath directory category ∈ Cli.templatesBelow tree directory := by
  rw [Cli.templatesBelow_eq h.1, FileTree.mem_documents_iff]
  exact ⟨isDocument_templatePath directory category, [templateName category], h, rfl⟩

/-- Whether the fault is in what the template holds: it is not a text, or it is not accepted. -/
def Failure.IsFault : Failure → Prop
  | .unreadable _ cause => cause = .notText
  | .invalid _ _ => True

/-- What a generator that remembers nothing writes depends on the template in the file. -/
theorem Generator.generate_new (registry : Registry) (config : Configuration) (directory : String)
    (withConflicts : Bool) (tree : FileTree) (context : PromptContext) :
    ((Generator.new registry config directory withConflicts).generate tree context).2 =
      (readTemplate tree directory context.detect).map
        ((Generator.new registry config directory withConflicts).fill context.detect context) :=
  Generator.generate_snd_of_remembered?_eq_none rfl

/-- A prompt is written exactly if the template is sound. -/
theorem Generator.exists_prompt_iff (registry : Registry) (config : Configuration)
    (directory : String) (withConflicts : Bool) (tree : FileTree) (context : PromptContext) :
    (∃ prompt, ((Generator.new registry config directory withConflicts).generate tree context).2 =
        .ok prompt) ↔
      Cli.Sound tree (templatePath directory context.detect) := by
  rw [generate_new, readTemplate]
  cases hread : tree.readText (templatePath directory context.detect) with
  | error cause => simp [Cli.Sound, hread, Except.map]
  | ok content =>
      rw [Cli.sound_of_readText hread]
      cases hvalid : Template.isValid content.toList <;> simp [hvalid, Except.map]

/-- A fault in what the template holds is one of a file. -/
theorem Generator.find_of_isFault {registry : Registry} {config : Configuration}
    {directory : String} {withConflicts : Bool} {tree : FileTree} {context : PromptContext}
    {cause : Failure}
    (h : ((Generator.new registry config directory withConflicts).generate tree context).2 =
      .error cause) (hfault : cause.IsFault) :
    ∃ content, tree.find (templatePath directory context.detect) = .ok (.file content) := by
  rw [generate_new, readTemplate] at h
  cases hread : tree.readText (templatePath directory context.detect) with
  | error reason =>
      rw [hread] at h
      cases h
      rw [show reason = .notText from hfault] at hread
      exact ⟨.binary, FileTree.find_of_readText_notText hread⟩
  | ok content =>
      obtain ⟨node, hfind, hnode⟩ := exists_of_bind_eq_ok hread
      cases node with
      | file found => exact ⟨found, hfind⟩
      | directory => cases hnode

end Prompt

/-! ### From checking to prompts -/

namespace Cli

/-- The path of an option is never empty. -/
theorem Arguments.path?_ne_empty {given : Arguments} {environment : List (String × String)}
    {name path : String} {key : Option String}
    (h : given.path? environment name key = some (some path)) : path ≠ "" := by
  rw [Arguments.path?] at h
  split at h
  · cases h
  · rename_i hne
    rintro rfl
    exact hne (Option.some.inj h)

/-- The directory of templates of a command line is never the empty path. -/
theorem templatesDirectory_ne_empty {environment : List (String × String)} {line : List String}
    {invocation : Invocation} (hread : Invocation.read? environment line = some invocation) :
    invocation.workspace.templatesDirectory ≠ "" := by
  cases line with
  | nil => cases hread
  | cons name texts =>
      simp only [Invocation.read?, Option.bind_eq_bind, Option.bind_eq_some_iff] at hread
      obtain ⟨given, -, command, -, workspace, hworkspace, hinvocation⟩ := hread
      split at hinvocation
      · cases hinvocation
        simp only [Arguments.workspace?, Option.bind_eq_bind, Option.bind_eq_some_iff] at hworkspace
        obtain ⟨rules, -, templates, htemplates, settings, -, hplaces⟩ := hworkspace
        cases hplaces
        cases templates with
        | none => exact (by decide : "templates" ≠ "")
        | some path => exact Arguments.path?_ne_empty htemplates
      · cases hinvocation

/-- **A project that was checked gives prompts.**  Take a command line that asks to check a project.
If that succeeds, then a generator for the same templates writes a prompt for every context whose
category has a file for its template directly in the directory, whatever the rules and the settings
are.  If no prompt is written as the template is not a text or is not accepted, then the check does
not succeed; that the template is a file directly in the directory need not be known, unless the
working directory is the root of all files. -/
theorem checked_prompts {environment : List (String × String)} {line : List String}
    {invocation : Invocation} (hread : Invocation.read? environment line = some invocation)
    (hcommand : invocation.command = .validate []) (tree : FileTree) (user : Option String) :
    let directory := invocation.workspace.templatesDirectory
    ((invocation.run tree user).isSuccess = true →
      ∀ registry config withConflicts context,
        tree.HasFile directory [Prompt.templateName context.detect] →
        ∃ prompt, ((Prompt.Generator.new registry config directory withConflicts).generate
          tree context).2 = .ok prompt) ∧
    ∀ registry config withConflicts context cause,
      ((Prompt.Generator.new registry config directory withConflicts).generate tree context).2 =
        .error cause → cause.IsFault →
      (tree.HasFile directory [Prompt.templateName context.detect] ∨
        Path.endsWithSlash tree.root = false) →
      (invocation.run tree user).isSuccess = false := by
  intro directory
  have hrun : invocation.run tree user = validate tree invocation.workspace [] := by
    rw [Invocation.run, hcommand]
  have hsound (hsuccess : (invocation.run tree user).isSuccess = true) (category : Category)
      (hfile : tree.HasFile directory [Prompt.templateName category]) :
      Sound tree (Prompt.templatePath directory category) := by
    rw [hrun, isSuccess_validate_iff] at hsuccess
    exact hsuccess.1 _ (Prompt.templatePath_mem hfile)
  constructor
  · intro hsuccess registry config withConflicts context hfile
    rw [Prompt.Generator.exists_prompt_iff]
    exact hsound hsuccess context.detect hfile
  · intro registry config withConflicts context cause herror hfault hplace
    have hfile : tree.HasFile directory [Prompt.templateName context.detect] := by
      obtain hfile | hslash := hplace
      · exact hfile
      · obtain ⟨content, hfind⟩ := Prompt.Generator.find_of_isFault herror hfault
        obtain ⟨hhere, hup⟩ := Prompt.templateName_ne_dots context.detect
        exact FileTree.hasFile_of_find_join hslash (templatesDirectory_ne_empty hread)
          (Prompt.isName_templateName context.detect) hhere hup hfind
    refine Bool.eq_false_iff.mpr fun hsuccess => ?_
    obtain ⟨prompt, hprompt⟩ := (Prompt.Generator.exists_prompt_iff registry config directory
      withConflicts tree context).mpr (hsound hsuccess context.detect hfile)
    rw [herror] at hprompt
    cases hprompt

/-- A project with a template for systems, and nothing else. -/
def templateTree (content : FileTree.Content) : FileTree :=
  (FileTree.empty "/project").write "/project/templates/systems.md" (.file content)

/-- If the template is a text without faults, then the project passes the check and there is a
prompt; if it is not a text, then there is no prompt and the project does not pass. -/
theorem templateTree_checked :
    let invocation : Invocation := ⟨⟨"rules", "templates", none, true⟩, .validate []⟩
    let good := templateTree (.text ("For " ++ Text.braced "category" ++ "."))
    let bad := templateTree .binary
    let generator := Prompt.Generator.new .empty .standard "templates" true
    let context : PromptContext := ⟨some .systems, none, none, none, none⟩
    Invocation.read? [] ["validate"] = some invocation ∧
      (invocation.run good none).isSuccess = true ∧
      (∃ prompt, (generator.generate good context).2 = .ok prompt) ∧
      (generator.generate bad context).2 =
        .error (.unreadable "templates/systems.md" .notText) ∧
      (invocation.run bad none).isSuccess = false := by
  intro invocation good bad generator context
  have hread : Invocation.read? [] ["validate"] = some invocation := by decide +kernel
  have hsuccess : (invocation.run good none).isSuccess = true := by decide +kernel
  have hfile : good.HasFile "templates" [Prompt.templateName context.detect] :=
    ⟨by decide +kernel, List.cons_ne_nil _ _,
      List.forall_mem_singleton.mpr (Prompt.isName_templateName _), ["templates"],
      .text ("For " ++ Text.braced "category" ++ "."),
      by decide +kernel, by decide +kernel⟩
  have herror : (generator.generate bad context).2 =
      .error (.unreadable "templates/systems.md" .notText) := by
    decide +kernel
  refine ⟨hread, hsuccess, ?_, herror, ?_⟩
  · exact (checked_prompts hread rfl good none).1 hsuccess .empty .standard true context hfile
  · exact (checked_prompts hread rfl bad none).2 .empty .standard true context _ herror rfl
      (.inr (by decide))

end Cli

end Rulebook
