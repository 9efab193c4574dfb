/-
**Writing prompts.**

A generator writes prompts from the rules of a registry and the templates in a directory.  It
remembers the prompts that it wrote, unless that is switched off, and the templates that it read.

Main definitions:

* `Rulebook.Prompt`, `Rulebook.Prompt.Failure` — prompts, and why there is none;
* `Rulebook.Prompt.Generator` — generators, with `clear` and `setCaching`;
* `Rulebook.Prompt.Generator.generate` — writing a prompt;
* `Rulebook.Prompt.Request`, `Rulebook.Prompt.Session`, `Rulebook.Prompt.Session.step` — what may be
  asked of a generator while files change, and what comes of it.
-/

import Rulebook.FileTree.Basic
import Rulebook.Prompt.Data
import Rulebook.Template.Render
import Rulebook.Template.Validation
import Rulebook.Text.Quoted
import Rulebook.Wording

set_option autoImplicit false

namespace Rulebook

/-- A prompt and what went into it. -/
structure Prompt where
  /-- The text. -/
  text : String
  /-- The category that it was written for. -/
  category : Category
  /-- The rules in force. -/
  rules : List Rule
  /-- The path of the template. -/
  template : String
  deriving DecidableEq, Repr

namespace Prompt

/-- Why there is no prompt. -/
inductive Failure where
  /-- The template cannot be read. -/
  | unreadable (path : String) (cause : FileError)
  /-- The template has faults. -/
  | invalid (category : Category) (path : String)
  deriving DecidableEq, Repr

/-- The chain of messages for the lack of a prompt. -/
def Failure.wording : Failure → List Wording
  | .unreadable path cause =>
    [.words ("read template: " ++ String.ofList (Text.quotePath path.toList)),
      .words cause.message]
  | .invalid category path =>
    [.words ("template for " ++ category.name ++ " is invalid: " ++
      String.ofList (Text.quotePath path.toList))]

/-! ### Generators -/

/-- A template with the path that it was read from. -/
structure LoadedTemplate where
  /-- The path. -/
  path : String
  /-- The template. -/
  content : String
  deriving DecidableEq, Repr

/-- What prompts are written from, and what is remembered. -/
structure Generator where
  /-- The rules. -/
  registry : Registry
  /-- The language standard of the project. -/
  languageStandard : String
  /-- The overrides of the rules. -/
  overrides : Overrides
  /-- The directory of the templates. -/
  templatesDirectory : String
  /-- The templates that were read, by category. -/
  templates : SortedMap Category LoadedTemplate
  /-- The prompts that were written, by what they were asked for. -/
  prompts : SortedMap String Prompt
  /-- Whether prompts are remembered. -/
  caching : Bool
  /-- Whether prompts tell the conflicts of rules. -/
  withConflicts : Bool

/-- The text under which a prompt is remembered. -/
def cacheKey (category : Category) (context : PromptContext) : String :=
  category.name ++ ":" ++ context.filePath.getD "" ++ ":" ++ context.functionName.getD "" ++ ":" ++
    context.fileType.getD ""

/-- The path of the template of a category. -/
def templatePath (directory : String) (category : Category) : String :=
  Path.join directory (category.name ++ ".md")

/-- The template of a category, if it can be read and has no faults. -/
def readTemplate (tree : FileTree) (directory : String) (category : Category) :
    Except Failure LoadedTemplate :=
  let path := templatePath directory category
  match tree.readText path with
  | .error cause => .error (.unreadable path cause)
  | .ok content =>
    if Template.isValid content.toList then .ok ⟨path, content⟩
    else .error (.invalid category path)

namespace Generator

/-- A generator that remembers nothing yet. -/
def new (registry : Registry) (config : Configuration) (templatesDirectory : String)
    (withConflicts : Bool) : Generator where
  registry := registry
  languageStandard := config.languageStandard
  overrides := .ofConfiguration config
  templatesDirectory := templatesDirectory
  templates := .empty
  prompts := .empty
  caching := true
  withConflicts := withConflicts

/-- Forgets what was read and written. -/
def clear (g : Generator) : Generator := { g with templates := .empty, prompts := .empty }

/-- Switches remembering prompts on or off; switching it off forgets everything. -/
def setCaching (g : Generator) (caching : Bool) : Generator :=
  if caching then { g with caching := true } else { g.clear with caching := false }

/-- The rules in force for a category. -/
def activeRules (g : Generator) (category : Category) : List Rule :=
  Prompt.activeRules g.registry g.overrides category

/-- The prompt that a template gives. -/
def fill (g : Generator) (category : Category) (context : PromptContext)
    (template : LoadedTemplate) : Prompt :=
  let rules := g.activeRules category
  ⟨Template.render template.content
      (data g.languageStandard g.withConflicts category context rules),
    category, rules, template.path⟩

/-- The template of a category: the one that was read before, or else the one in the file. -/
def template (tree : FileTree) (g : Generator) (category : Category) :
    Except Failure LoadedTemplate :=
  match g.templates.get? category with
  | some loaded => .ok loaded
  | none => readTemplate tree g.templatesDirectory category

/-- Remembers a template, and a prompt if prompts are remembered. -/
def remember (g : Generator) (category : Category) (key : String) (loaded : LoadedTemplate)
    (prompt : Prompt) : Generator :=
  { g with
    templates := g.templates.insert category loaded
    prompts := if g.caching then g.prompts.insert key prompt else g.prompts }

/-- The prompt that is remembered under a key. -/
def remembered? (g : Generator) (key : String) : Option Prompt :=
  if g.caching then g.prompts.get? key else none

/-- Writes a prompt, and what the generator remembers then. -/
def generate (tree : FileTree) (g : Generator) (context : PromptContext) :
    Generator × Except Failure Prompt :=
  let category := context.detect
  let key := cacheKey category context
  match g.remembered? key with
  | some prompt => (g, .ok prompt)
  | none =>
    match g.template tree category with
    | .error failure => (g, .error failure)
    | .ok loaded =>
      let prompt := g.fill category context loaded
      (g.remember category key loaded prompt, .ok prompt)

end Generator

/-! ### Sessions -/

/-- What may be asked. -/
inductive Request where
  /-- Write a prompt. -/
  | generate (context : PromptContext)
  /-- Switch remembering on or off. -/
  | setCaching (caching : Bool)
  /-- Forget everything. -/
  | clear
  /-- Write a file. -/
  | write (path : String) (node : FileTree.Node)
  /-- Tell the rules in force for a category. -/
  | activeRules (category : Category)
  deriving DecidableEq, Repr

/-- What comes of it. -/
inductive Response where
  /-- Nothing to tell. -/
  | done
  /-- A prompt. -/
  | prompt (prompt : Prompt)
  /-- There is no prompt. -/
  | failed (cause : Failure)
  /-- Some rules. -/
  | rules (rules : List Rule)
  deriving DecidableEq, Repr

/-- The files and the generator. -/
structure Session where
  /-- The files. -/
  tree : FileTree
  /-- The generator. -/
  generator : Generator

namespace Session

/-- What comes of a request. -/
def step (session : Session) : Request → Session × Response
  | .generate context =>
    match session.generator.generate session.tree context with
    | (g, .ok prompt) => ({ session with generator := g }, .prompt prompt)
    | (g, .error cause) => ({ session with generator := g }, .failed cause)
  | .setCaching caching =>
    ({ session with generator := session.generator.setCaching caching }, .done)
  | .clear => ({ session with generator := session.generator.clear }, .done)
  | .write path node => ({ session with tree := session.tree.write path node }, .done)
  | .activeRules category => (session, .rules (session.generator.activeRules category))

end Session

end Prompt

end Rulebook
