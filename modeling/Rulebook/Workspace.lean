/-
**Where a project keeps its rules.**

A project has a directory of rule documents, a directory of templates and settings, to which the
settings of its user are added unless they are to be left out.  Opening a workspace reads the
settings first and then the rules, with those that the settings point at.

Main definitions:

* `Rulebook.Workspace` — the places;
* `Rulebook.Workspace.configuration` — the settings;
* `Rulebook.Workspace.registry` — the rules;
* `Rulebook.Workspace.project` — both.
-/

import Rulebook.Configuration.Resolver
import Rulebook.Registry.Load

set_option autoImplicit false

namespace Rulebook

/-- The places of a project. -/
structure Workspace where
  /-- The directory of rule documents. -/
  rulesDirectory : String
  /-- The directory of templates. -/
  templatesDirectory : String
  /-- The file of settings; if it is not given it is looked for in the working directory. -/
  settings : Option String
  /-- Whether the settings of the user count. -/
  withUser : Bool
  deriving DecidableEq, Repr

/-- The settings and the rules of a project. -/
structure Project where
  /-- The settings. -/
  configuration : Configuration
  /-- The rules. -/
  registry : Registry

namespace Workspace

/-- Why a workspace cannot be opened. -/
inductive Failure where
  /-- There are no settings. -/
  | unresolved (cause : Configuration.LoadError)
  /-- There are no settings without those of the user. -/
  | unresolvedWithoutUser (cause : Configuration.LoadError)
  /-- The pattern of further rule documents cannot be read. -/
  | badPattern (pattern : String)

/-- The chain of messages for a workspace that cannot be opened. -/
def Failure.wording : Failure → List Wording
  | .unresolved cause => .words "resolve configuration" :: cause.wording
  | .unresolvedWithoutUser cause => cause.wording
  | .badPattern pattern =>
    .words ("load custom rules from " ++ String.ofList (Text.quote pattern.toList)) ::
      Registry.patternWording pattern

/-- Where the settings of the project come from. -/
def projectSource (w : Workspace) (tree : FileTree) : Configuration.ProjectSource :=
  match w.settings with
  | some path => .file path
  | none => .directory tree.root

/-- The resolver of the settings, with those of the user. -/
def resolver (w : Workspace) (tree : FileTree) (user : Option String) :
    Except Failure Resolver :=
  (Resolver.ofSources tree ⟨w.projectSource tree, user⟩).mapError .unresolved

/-- The settings.  Those of the user are read even if they are then left out. -/
def configuration (w : Workspace) (tree : FileTree) (user : Option String) :
    Except Failure Configuration := do
  let resolver ← w.resolver tree user
  if w.withUser then return resolver.current
  else return (← (resolver.withoutUser tree).mapError .unresolvedWithoutUser).current

/-- The rules. -/
def registry (w : Workspace) (tree : FileTree) (config : Configuration) :
    Except Failure Registry :=
  let own := Registry.ofDirectory tree w.rulesDirectory
  match config.customRules with
  | none => .ok own
  | some pattern =>
    match Registry.loadPattern? tree own pattern with
    | some loaded => .ok loaded
    | none => .error (.badPattern pattern)

/-- The settings and the rules. -/
def project (w : Workspace) (tree : FileTree) (user : Option String) :
    Except Failure Project := do
  let config ← w.configuration tree user
  let registry ← w.registry tree config
  return ⟨config, registry⟩

end Workspace

/-- What is to be said about the documents that were left out. -/
def Project.remarks (p : Project) : List String :=
  p.registry.errors.map fun e => "warning: skipped " ++ e.path ++ ": " ++ e.message

end Rulebook
