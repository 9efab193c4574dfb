/-
**Layers of settings.**

The settings of a project come from up to three layers: the standard ones, those of the user, and
those of the project.  Each of the last two is a file, and the settings are what the three amount to
when they are laid over each other.

Main definitions:

* `Rulebook.Configuration.LoadError` — why there are no settings;
* `Rulebook.Configuration.readLayer?` — the layer in a file;
* `Rulebook.Configuration.Sources`, `Rulebook.Configuration.resolve` — where settings come from, and
  what they are.
-/

import Rulebook.Configuration.Encoding
import Rulebook.FileTree.Basic
import Rulebook.Json.Layer
import Rulebook.Json.Reader
import Rulebook.Text.Quoted
import Rulebook.Wording
import Rulebook.Yaml.Value

set_option autoImplicit false

namespace Rulebook.Configuration

/-! ### Errors -/

/-- Why a layer cannot be read. -/
inductive LayerError where
  /-- The file cannot be read. -/
  | unreadable (path : String) (cause : FileError)
  /-- The file is not spelled as its format demands. -/
  | malformed (path content : String)
  deriving DecidableEq, Repr

/-- Why there are no settings. -/
inductive LoadError where
  /-- The layer of the user cannot be read. -/
  | user (directory : String) (cause : LayerError)
  /-- The layer of the project cannot be read. -/
  | project (directory : String) (cause : LayerError)
  /-- The file that was asked for cannot be read. -/
  | file (cause : LayerError)
  /-- The file that was asked for is not there. -/
  | missing (path : String)
  /-- What the layers amount to is not a configuration. -/
  | mismatch (cause : Json.Mismatch)

/-- A path between quotes. -/
def quoted (path : String) : String := String.ofList (Text.quotePath path.toList)

/-- The chain of messages for a layer that cannot be read. -/
def LayerError.wording : LayerError → List Wording
  | .unreadable path cause =>
    [.words ("read config file: " ++ quoted path), .words cause.message]
  | .malformed path content =>
    [.words (Wording.headed "File content:" content),
      .words ("parse config file: " ++ quoted path), .badSpelling]

/-- The chain of messages for the lack of settings. -/
def LoadError.wording : LoadError → List Wording
  | .user directory cause =>
    .words ("load user configuration from " ++ quoted directory) :: cause.wording
  | .project directory cause =>
    .words ("load project configuration from " ++ quoted directory) :: cause.wording
  | .file cause => cause.wording
  | .missing path => [.words ("configuration file not found: " ++ quoted path)]
  | .mismatch cause => [.words "parse merged configuration", .words cause.message]

/-! ### Files -/

/-- The value in a file, by the extension of its path. -/
def readValue? (path content : String) : Option Json :=
  if Path.extension? path = some "json" then Json.read? content.toList
  else Yaml.readJson? content.toList

/-- A layer that says nothing is a layer without settings. -/
def layerOf : Json → Json
  | .null => .object []
  | value => value

/-- The layer in a file; none if there is no such file. -/
def readLayer? (tree : FileTree) (path : String) : Except LayerError (Option Json) :=
  match tree.readText path with
  | .error .notFound => .ok none
  | .error cause => .error (.unreadable path cause)
  | .ok content =>
    match readValue? path content with
    | some value => .ok (some (layerOf value))
    | none => .error (.malformed path content)

/-- The layer in the first of several files that is there. -/
def firstLayer? (tree : FileTree) (directory : String) :
    List String → Except LayerError (Option Json)
  | [] => .ok none
  | name :: rest =>
    match readLayer? tree (Path.join directory name) with
    | .ok none => firstLayer? tree directory rest
    | other => other

theorem firstLayer?_cons (tree : FileTree) (directory name : String) (rest : List String) :
    firstLayer? tree directory (name :: rest) =
      match readLayer? tree (Path.join directory name) with
      | .ok none => firstLayer? tree directory rest
      | other => other := (rfl)

/-- The names of the files of a project's settings, in the order in which they are looked for. -/
def projectFiles : List String := ["canon.yaml", "canon.yml", "canon.json"]

/-- The names of the files of a user's settings, in the order in which they are looked for. -/
def userFiles : List String := ["config.yaml", "config.yml", "config.json"]

/-! ### Sources -/

/-- Where the settings of a project are. -/
inductive ProjectSource where
  /-- In one of the usual files of a directory. -/
  | directory (path : String)
  /-- In this file, which must be there. -/
  | file (path : String)
  deriving DecidableEq, Repr

/-- Where settings come from. -/
structure Sources where
  /-- The settings of the project. -/
  project : ProjectSource
  /-- The directory of the settings of the user, if they count. -/
  user : Option String
  deriving DecidableEq, Repr

/-- The layer of the user. -/
def userLayer? (tree : FileTree) : Option String → Except LoadError (Option Json)
  | none => .ok none
  | some directory => (firstLayer? tree directory userFiles).mapError (.user directory)

/-- The layer of the project. -/
def projectLayer? (tree : FileTree) : ProjectSource → Except LoadError (Option Json)
  | .directory path => (firstLayer? tree path projectFiles).mapError (.project path)
  | .file path =>
    match readLayer? tree path with
    | .ok (some layer) => .ok (some layer)
    | .ok none => .error (.missing path)
    | .error cause => .error (.file cause)

/-- A value with a layer over it, if there is one. -/
def withLayer (base : Json) : Option Json → Json
  | some layer => Json.merge base layer
  | none => base

/-- The settings that some sources amount to. -/
def resolve (tree : FileTree) (sources : Sources) : Except LoadError Configuration := do
  let user ← userLayer? tree sources.user
  let project ← projectLayer? tree sources.project
  (ofJson (withLayer (withLayer standard.toJson user) project)).mapError .mismatch

end Rulebook.Configuration
