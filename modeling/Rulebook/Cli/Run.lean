/-
**Running a command.**

Each command reads what it needs from the files of a project and answers.  Files are not changed.

Main definitions:

* `Rulebook.Cli.listed`, `Rulebook.Cli.ruleTable` — the rules that are listed, and their table;
* `Rulebook.Cli.Findings`, `Rulebook.Cli.validate` — checking templates and rule documents;
* `Rulebook.Cli.Invocation.run` — running a command.
-/

import Rulebook.Cli.Outcome
import Rulebook.Conflict.Encoding
import Rulebook.Conflict.Markdown
import Rulebook.Override.Consistency
import Rulebook.Override.Fragment
import Rulebook.Override.Report
import Rulebook.Prompt.Encoding
import Rulebook.Template.Diagnostics
import Rulebook.Template.Needs

set_option autoImplicit false

namespace Rulebook.Cli

/-! ### Rules -/

/-- A text with spaces after it, up to a number of characters. -/
def padded (width : Nat) (text : String) : String :=
  text ++ String.ofList (List.replicate (width - text.length) ' ')

/-- The width of the column of ids. -/
def idWidth (rules : List Rule) : Nat := rules.foldl (fun width r => max width r.id.utf8ByteSize) 0

/-- The line of a rule in the table. -/
def ruleLine (width : Nat) (rule : Rule) : String :=
  padded width rule.id ++ "  " ++ padded 7 rule.severity.name ++ "  [" ++
    Text.commaList (rule.category.map Category.name) ++ "]  " ++ rule.name ++
    if rule.enabled then "" else " (disabled)"

/-- The rules as a table. -/
def ruleTable (rules : List Rule) : String :=
  if rules.isEmpty then "No rules found."
  else "\n".intercalate (rules.map (ruleLine (idWidth rules)))

/-- The rules of some categories, or all rules, with the overrides of the settings unless they are
wanted as they are stored. -/
def listed (p : Project) (categories : List Category) (raw enabledOnly : Bool) : List Rule :=
  let categories := if categories.isEmpty then Category.all else categories
  let overrides := Overrides.ofConfiguration p.configuration
  let found := (p.registry.query categories none).map fun rule =>
    if raw then rule else overrides.applyLayered rule categories
  found.filter fun rule => !enabledOnly || rule.enabled

/-- Lists rules. -/
def listRules (p : Project) (categories : List Category) (raw enabledOnly : Bool)
    (format : Format) : Outcome :=
  let rules := listed p categories raw enabledOnly
  ⟨format.write (.array (rules.map Rule.toJson)) (ruleTable rules), p.remarks, []⟩

/-! ### Conflicts and overrides -/

/-- The conflicts among the rules of some categories, or of those of the settings. -/
def conflictReport (p : Project) (categories : List Category) (raw : Bool) : Conflict.Report :=
  Conflict.scan p.registry p.configuration
    (if raw then none else some (Overrides.ofConfiguration p.configuration))
    (if categories.isEmpty then none else some categories)

/-- Reports conflicts. -/
def reportConflicts (p : Project) (categories : List Category) (raw : Bool) (format : Format) :
    Outcome :=
  let report := conflictReport p categories raw
  ⟨format.write report.toJson report.markdown, p.remarks, []⟩

/-- Writes the overrides as settings. -/
def exportOverrides (p : Project) : Outcome :=
  ⟨String.ofList (Yaml.write (Overrides.ofConfiguration p.configuration).fragment.toJson),
    p.remarks, []⟩

/-- The failure of overrides that contradict each other. -/
def contradictions (errors : List String) : List Wording :=
  if errors.isEmpty then []
  else [.words (toString errors.length ++ " conflicting override(s)")]

/-- Reports the overrides and checks them. -/
def reportOverrides (p : Project) : Outcome :=
  let overrides := Overrides.ofConfiguration p.configuration
  let assessment := overrides.assess p.registry
  ⟨closed overrides.report.toList,
    p.remarks ++ assessment.warnings.map fun warning => "warning: " ++ warning,
    contradictions assessment.errors⟩

/-! ### Prompts -/

/-- A path between quotes. -/
def quotedPath (path : String) : String := String.ofList (Text.quotePath path.toList)

/-- The code around. -/
def readCode (tree : FileTree) : Option CodeSource → Except (List Wording) (Option String)
  | none => .ok none
  | some (.text code) => .ok (some code)
  | some (.file path) =>
    match tree.readText path with
    | .ok code => .ok (some code)
    | .error cause => .error [.words ("read " ++ quotedPath path), .words cause.message]

/-- The prompt for a context. -/
def promptFor (tree : FileTree) (w : Workspace) (p : Project) (context : PromptContext)
    (withConflicts : Bool) : Except Prompt.Failure Prompt :=
  ((Prompt.Generator.new p.registry p.configuration w.templatesDirectory withConflicts).generate
    tree context).2

/-- Writes a prompt. -/
def writePrompt (tree : FileTree) (w : Workspace) (p : Project) (context : PromptContext)
    (code : Option CodeSource) (withConflicts : Bool) (format : Format) : Outcome :=
  match readCode tree code with
  | .error failure => ⟨"", p.remarks, failure⟩
  | .ok code =>
    match promptFor tree w p { context with codeContext := code } withConflicts with
    | .error cause => ⟨"", p.remarks, .words "generate prompt" :: cause.wording⟩
    | .ok prompt => ⟨format.write prompt.toJson prompt.text, p.remarks, []⟩

/-! ### Checking -/

/-- What was found so far. -/
structure Findings where
  /-- The lines of the answer. -/
  lines : List String
  /-- The remarks. -/
  remarks : List String
  /-- The number of files with faults. -/
  faulty : Nat
  deriving DecidableEq, Repr

namespace Findings

/-- What is found before anything is checked. -/
def empty : Findings := ⟨[], [], 0⟩

/-- One more line of the answer. -/
def withLine (f : Findings) (line : String) : Findings := { f with lines := f.lines ++ [line] }

/-- One more file with faults. -/
def withFault (f : Findings) (remark : String) : Findings :=
  { f with remarks := f.remarks ++ [remark], faulty := f.faulty + 1 }

/-- The line about a template without faults. -/
def validLine (path : String) (content : List Char) : String :=
  "ok: " ++ path ++ " (" ++ Text.commaList (Template.neededNames content) ++ ")"

/-- One more template. -/
def withTemplate (f : Findings) (path : String) (content : List Char) : Findings :=
  if Template.isValid content then f.withLine (validLine path content)
  else f.withFault (Template.diagnostics ("invalid template: " ++ path) content)

/-- One more directory of rule documents. -/
def withRegistry (f : Findings) (registry : Registry) : Findings :=
  (registry.errors.foldl
    (fun f e => f.withFault ("error: " ++ e.path ++ ": " ++ e.message)) f).withLine
    (toString registry.rules.length ++ " rule(s) loaded")

/-- The outcome, with a failure of its own or else one for the files with faults. -/
def outcome (f : Findings) (failure : List Wording) : Outcome :=
  let verdict : List Wording :=
    if f.faulty = 0 then [] else [.words (toString f.faulty ++ " file(s) failed validation")]
  ⟨Text.page f.lines, f.remarks, if failure.isEmpty then verdict else failure⟩

end Findings

/-- Checks templates in order, up to one that cannot be read. -/
def checkTemplates (tree : FileTree) : Findings → List String → Findings × List Wording
  | f, [] => (f, [])
  | f, path :: rest =>
    match tree.readText path with
    | .error cause => (f, [.words ("read template: " ++ quotedPath path), .words cause.message])
    | .ok content => checkTemplates tree (f.withTemplate path content.toList) rest

/-- The templates below a directory. -/
def templatesBelow (tree : FileTree) (directory : String) : List String :=
  (tree.walk directory).filter Path.isDocument

/-- Checks some templates, or all templates and all rule documents of a project. -/
def validate (tree : FileTree) (w : Workspace) (paths : List String) : Outcome :=
  if paths.isEmpty then
    match checkTemplates tree .empty (templatesBelow tree w.templatesDirectory) with
    | (f, []) => (f.withRegistry (Registry.ofDirectory tree w.rulesDirectory)).outcome []
    | (f, failure) => f.outcome failure
  else
    let (f, failure) := checkTemplates tree .empty paths
    f.outcome failure

/-! ### All commands -/

/-- Does something with a project, if it can be opened. -/
def withProject (w : Workspace) (tree : FileTree) (user : Option String)
    (act : Project → Outcome) : Outcome :=
  match w.project tree user with
  | .ok p => act p
  | .error cause => .failed cause.wording

/-- Runs a command on a tree of files, given the directory of the settings of the user. -/
def Invocation.run (tree : FileTree) (user : Option String) (i : Invocation) : Outcome :=
  let w := i.workspace
  match i.command with
  | .rules categories raw enabledOnly format =>
    withProject w tree user fun p => listRules p categories raw enabledOnly format
  | .conflicts categories raw format =>
    withProject w tree user fun p => reportConflicts p categories raw format
  | .overrides true => withProject w tree user exportOverrides
  | .overrides false => withProject w tree user reportOverrides
  | .prompt context code withConflicts format =>
    withProject w tree user fun p => writePrompt tree w p context code withConflicts format
  | .validate paths => validate tree w paths

end Rulebook.Cli
