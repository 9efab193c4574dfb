/-
**What can be asked on the command line.**

A command line names a command, the places of the project and what the command is to do.  It is
refused as a whole if any part of it is not understood.

Main definitions:

* `Rulebook.Cli.Format` — the forms of an answer;
* `Rulebook.Cli.Command`, `Rulebook.Cli.Invocation` — the commands, and a command with the places
  of its project;
* `Rulebook.Cli.Invocation.read?` — reading a command line.
-/

import Rulebook.Cli.Arguments
import Rulebook.Prompt.Detection
import Rulebook.Workspace

set_option autoImplicit false

namespace Rulebook.Cli

/-! ### Commands -/

/-- The forms of an answer. -/
inductive Format where
  /-- For readers. -/
  | text
  /-- As a JSON text. -/
  | json
  /-- As a YAML text. -/
  | yaml
  deriving DecidableEq, Repr

/-- Where the code around comes from. -/
inductive CodeSource where
  /-- It is given. -/
  | text (code : String)
  /-- It is in a file. -/
  | file (path : String)
  deriving DecidableEq, Repr

/-- The commands. -/
inductive Command where
  /-- List the rules of some categories, or all rules. -/
  | rules (categories : List Category) (raw enabledOnly : Bool) (format : Format)
  /-- Report the conflicts among the rules of some categories, or of those of the settings. -/
  | conflicts (categories : List Category) (raw : Bool) (format : Format)
  /-- Report the overrides, or write them as settings. -/
  | overrides (exported : Bool)
  /-- Write a prompt. -/
  | prompt (context : PromptContext) (code : Option CodeSource) (withConflicts : Bool)
    (format : Format)
  /-- Check some templates, or all templates and all rule documents. -/
  | validate (paths : List String)
  deriving DecidableEq, Repr

/-- A command with the places of its project. -/
structure Invocation where
  /-- The places. -/
  workspace : Workspace
  /-- The command. -/
  command : Command
  deriving DecidableEq, Repr

/-! ### Options -/

/-- The options that every command has. -/
def workspaceParameters : List Parameter :=
  [⟨"rules-dir", .once, none⟩, ⟨"templates-dir", .once, none⟩, ⟨"config", .once, none⟩,
    ⟨"no-user-config", .switch, none⟩]

/-- The option for the form of the answer. -/
def formatParameter : Parameter := ⟨"format", .once, none⟩

/-- The option for categories. -/
def categoryParameter (arity : Arity) : Parameter := ⟨"category", arity, some 'c'⟩

/-- The options of a command beside those that every command has. -/
def ownParameters : String → List Parameter
  | "rules" =>
    [categoryParameter .many, ⟨"raw", .switch, none⟩, ⟨"enabled-only", .switch, none⟩,
      formatParameter]
  | "conflicts" => [categoryParameter .many, ⟨"raw", .switch, none⟩, formatParameter]
  | "overrides" => [⟨"export", .switch, none⟩]
  | "prompt" =>
    [categoryParameter .once, ⟨"file", .once, none⟩, ⟨"function", .once, none⟩,
      ⟨"file-type", .once, none⟩, ⟨"code", .once, none⟩, ⟨"code-file", .once, none⟩,
      ⟨"annotate-conflicts", .switch, none⟩, formatParameter]
  | _ => []

namespace Arguments

/-- The categories that are given. -/
def categories? (given : Arguments) : Option (List Category) :=
  (given.values "category").mapM fun text => (Category.parse text.toList).toOption

/-- The form that is given, or text. -/
def format? (given : Arguments) : Option Format :=
  match given.value? "format" with
  | none => some .text
  | some "text" => some .text
  | some "json" => some .json
  | some "yaml" => some .yaml
  | some _ => none

/-- The places that are given, on the command line or by the environment, or else the usual
ones. -/
def workspace? (given : Arguments) (environment : List (String × String)) : Option Workspace := do
  let rules ← given.path? environment "rules-dir" (some "CANON_RULES_DIR")
  let templates ← given.path? environment "templates-dir" (some "CANON_TEMPLATES_DIR")
  let settings ← given.path? environment "config" (some "CANON_CONFIG")
  return ⟨rules.getD "rules", templates.getD "templates", settings, !given.has "no-user-config"⟩

/-- Where the code around comes from; it is not given twice. -/
def code? (given : Arguments) : Option (Option CodeSource) := do
  let file ← given.path? [] "code-file" none
  match given.value? "code", file with
  | some _, some _ => none
  | some code, none => some (some (.text code))
  | none, some path => some (some (.file path))
  | none, none => some none

/-- What a prompt is asked for, but for the code around. -/
def context? (given : Arguments) : Option PromptContext := do
  let categories ← given.categories?
  return ⟨categories.head?, given.value? "file", given.value? "function",
    given.value? "file-type", none⟩

/-- The command of a name. -/
def command? (given : Arguments) : String → Option Command
  | "rules" => do
    return .rules (← given.categories?) (given.has "raw") (given.has "enabled-only")
      (← given.format?)
  | "conflicts" => do return .conflicts (← given.categories?) (given.has "raw") (← given.format?)
  | "overrides" => some (.overrides (given.has "export"))
  | "prompt" => do
    return .prompt (← given.context?) (← given.code?) (given.has "annotate-conflicts")
      (← given.format?)
  | "validate" => if given.operands.contains "" then none else some (.validate given.operands)
  | _ => none

end Arguments

/-! ### Command lines -/

/-- Whether a command has operands. -/
def Command.takesOperands : Command → Bool
  | .validate _ => true
  | _ => false

/-- The forms of a command line. -/
def usage : String :=
  "usage: canon rules|conflicts|overrides|prompt|validate [--rules-dir DIR] " ++
    "[--templates-dir DIR] [--config FILE] [--no-user-config] [OPTION...]"

/-- Reads a command line, in an environment of variables; none if it is not understood. -/
def Invocation.read? (environment : List (String × String)) : List String → Option Invocation
  | [] => none
  | name :: texts => do
    let given ← Arguments.read? (workspaceParameters ++ ownParameters name) texts
    let command ← given.command? name
    let workspace ← given.workspace? environment
    if given.operands.isEmpty || command.takesOperands then some ⟨workspace, command⟩ else none

end Rulebook.Cli
