/-
**Leaving out the settings of the user.**

A command that is told to leave out the settings of the user resolves the settings with them first,
and again without them.  So what the files of the user hold does not show in the settings of the
project, but it shows in whether there are any: an error that comes of reading them, or of laying
them under the settings of the project, is the answer.  In two trees that differ in the files of the
user only the outcome is therefore the same exactly if the first resolution meets the same obstacle,
or none, in both.

This holds as long as the settings of the project are looked for apart from those of the user.  They
are if the files are in the usual places; a command that names a file of the user as the settings of
the project asks for that file.

Main definitions:

* `Rulebook.Configuration.userPaths`, `Rulebook.Configuration.ProjectSource.paths` — the paths where
  settings are looked for;
* `Rulebook.Configuration.Apart` — settings of a project that are looked for apart from those of the
  user;
* `Rulebook.Configuration.obstacle?` — why settings cannot be resolved.

Main results:

* `Rulebook.Configuration.apart_directory` — the usual places are apart;
* `Rulebook.Workspace.configuration_of_withUser_eq_false` — what is resolved, and when it fails;
* `Rulebook.Workspace.configuration_eq_iff` — **trees that differ in the files of the user only have
  the same settings exactly if they have the same obstacle**;
* `Rulebook.Workspace.malformed_user_shows` — they need not.
-/

import Mathlib.Data.List.Basic
import Rulebook.Proofs.Cli.Switch
import Rulebook.Proofs.FileTree.Difference
import Rulebook.Text.Page

set_option autoImplicit false

namespace Rulebook

/-! ### Places -/

namespace Configuration

/-- The paths where the settings of a user are looked for. -/
def userPaths : Option String → List String
  | none => []
  | some directory => userFiles.map (Path.join directory)

/-- The paths where the settings of a project are looked for. -/
def ProjectSource.paths : ProjectSource → List String
  | .directory path => projectFiles.map (Path.join path)
  | .file path => [path]

/-- The settings of a project are looked for apart from those of a user. -/
def Apart (tree : FileTree) (user : Option String) (source : ProjectSource) : Prop :=
  ∀ path ∈ source.paths, tree.Avoids (userPaths user) path

instance (tree : FileTree) (user : Option String) (source : ProjectSource) :
    Decidable (Apart tree user source) :=
  inferInstanceAs (Decidable (∀ _ ∈ _, tree.Avoids _ _))

/-- The files of a project have plain names. -/
theorem plain_projectFiles : ∀ name ∈ projectFiles,
    Path.isAbsolute name = false ∧ Path.parts name = [name] ∧ name ≠ "." ∧ name ≠ ".." := by
  decide +kernel

theorem partsFrom_join_root {tree : FileTree} (hroot : tree.root ≠ "")
    (hslash : Path.endsWithSlash tree.root = false) {name : String} (hname : name ∈ projectFiles) :
    tree.partsFrom (Path.join tree.root name) = [name] := by
  obtain ⟨habsolute, hparts, -⟩ := plain_projectFiles name hname
  have hpath : Path.join tree.root name = tree.root ++ "/" ++ name := by
    simp [Path.join, habsolute, hslash, hroot]
  have hprefix : tree.root.toList.isPrefixOf? (tree.root ++ "/" ++ name).toList =
      some ('/' :: name.toList) := by
    rw [List.isPrefixOf?_eq_some_iff_append_eq]
    simp
  rw [hpath, FileTree.partsFrom, hprefix]
  show Path.parts (String.ofList name.toList) = [name]
  rw [String.ofList_toList, hparts]

/-- **The usual places are apart**, if the settings of the user are not in a directory that has the
name of a file of the project. -/
theorem apart_directory {tree : FileTree} {user : Option String} (hroot : tree.root ≠ "")
    (hslash : Path.endsWithSlash tree.root = false)
    (huser : ∀ path ∈ userPaths user, ∀ name ∈ projectFiles,
      (tree.partsFrom path).head? ≠ some name) :
    Apart tree user (.directory tree.root) := by
  intro path hpath place hplace other hother hway
  obtain ⟨name, hname, rfl⟩ := List.mem_map.mp hpath
  obtain ⟨-, -, hhere, habove⟩ := plain_projectFiles name hname
  have hstep : tree.step [] name = .ok [name] := by
    simp [FileTree.step, FileTree.at?, hhere, habove]
  rw [partsFrom_join_root hroot hslash hname, FileTree.passed, hstep] at hplace
  obtain ⟨hne, rest, hrest⟩ := hway
  -- Only the working directory and the file itself are looked at.
  rcases List.mem_cons.mp hplace with rfl | hplace
  · exact hne rfl
  · cases List.mem_singleton.mp hplace
    exact huser other hother name hname (by rw [← hrest]; rfl)

/-! ### Layers -/

theorem readLayer?_congr {a b : FileTree} {path : String} (h : b.readText path = a.readText path) :
    readLayer? b path = readLayer? a path := by
  simp only [readLayer?, h]

theorem firstLayer?_congr {a b : FileTree} {directory : String} {names : List String}
    (h : ∀ name ∈ names, readLayer? b (Path.join directory name) =
      readLayer? a (Path.join directory name)) :
    firstLayer? b directory names = firstLayer? a directory names := by
  induction names with
  | nil => rfl
  | cons name rest ih =>
      obtain ⟨hfirst, hrest⟩ := List.forall_mem_cons.mp h
      rw [firstLayer?_cons, firstLayer?_cons, hfirst, ih hrest]

/-- **The layer of a project does not depend on the files of the user**, if they are apart. -/
theorem projectLayer?_eq {a b : FileTree} {user : Option String} {source : ProjectSource}
    (hsame : FileTree.SameBesides (userPaths user) a b) (hapart : Apart a user source) :
    projectLayer? b source = projectLayer? a source := by
  have hlayer : ∀ path ∈ source.paths, readLayer? b path = readLayer? a path :=
    fun path hpath => readLayer?_congr (hsame.readText_eq (hapart path hpath))
  cases source with
  | directory path =>
      have hfirst : firstLayer? b path projectFiles = firstLayer? a path projectFiles :=
        firstLayer?_congr fun name hname => hlayer _ (List.mem_map_of_mem hname)
      rw [projectLayer?, projectLayer?, hfirst]
  | file path =>
      have hfile : readLayer? b path = readLayer? a path := hlayer path (List.mem_singleton_self _)
      simp only [projectLayer?, hfile]

/-- So what a project amounts to without its user does not depend on these files either. -/
theorem resolve_none_eq {a b : FileTree} {user : Option String} {source : ProjectSource}
    (hsame : FileTree.SameBesides (userPaths user) a b) (hapart : Apart a user source) :
    resolve b ⟨source, none⟩ = resolve a ⟨source, none⟩ := by
  have huser : userLayer? b none = userLayer? a none := rfl
  rw [resolve, resolve, huser, projectLayer?_eq hsame hapart]

/-! ### Obstacles -/

/-- Why the settings of some sources cannot be resolved, if they cannot. -/
def obstacle? (tree : FileTree) (sources : Sources) : Option LoadError :=
  match resolve tree sources with
  | .ok _ => none
  | .error cause => some cause

theorem obstacle?_of_isOk {tree : FileTree} {sources : Sources}
    (h : (resolve tree sources).isOk = true) : obstacle? tree sources = none := by
  rw [obstacle?]
  split
  · rfl
  · rename_i cause heq
    rw [heq] at h
    cases h

theorem obstacle?_of_userLayer? {tree : FileTree} {sources : Sources} {cause : LoadError}
    (h : userLayer? tree sources.user = .error cause) : obstacle? tree sources = some cause := by
  rw [obstacle?, resolve, h]
  rfl

end Configuration

namespace Resolver

/-- **Leaving out the settings of the user is too late for an obstacle.** -/
theorem withoutUser_of_ofSources (tree : FileTree) (source : Configuration.ProjectSource)
    (user : Option String) :
    (ofSources tree ⟨source, user⟩).bind (withoutUser tree) =
      match Configuration.obstacle? tree ⟨source, user⟩ with
      | some cause => .error cause
      | none => ofSources tree ⟨source, none⟩ := by
  rw [Configuration.obstacle?, ofSources]
  cases Configuration.resolve tree ⟨source, user⟩ with
  | error cause => rfl
  | ok config => rfl

end Resolver

namespace Workspace

/-- What becomes of the settings without those of the user, after an obstacle or none. -/
def unlessObstacle (settings : Except Configuration.LoadError Configuration) :
    Option Configuration.LoadError → Except Failure Configuration
  | some cause => .error (.unresolved cause)
  | none => settings.mapError .unresolvedWithoutUser

/-- The outcome tells whether there was an obstacle, and which one. -/
theorem unlessObstacle_injective (settings : Except Configuration.LoadError Configuration) :
    Function.Injective (unlessObstacle settings) := by
  intro first second h
  cases first with
  | some cause =>
      cases second with
      | some other =>
          cases h
          rfl
      | none => cases settings <;> cases h
  | none =>
      cases second with
      | some other => cases settings <;> cases h
      | none => rfl

/-- **The settings without those of the user**, unless these are in the way. -/
theorem configuration_of_withUser_eq_false {w : Workspace} (hoff : w.withUser = false)
    (tree : FileTree) (user : Option String) :
    w.configuration tree user =
      unlessObstacle (Configuration.resolve tree ⟨w.projectSource tree, none⟩)
        (Configuration.obstacle? tree ⟨w.projectSource tree, user⟩) := by
  rw [configuration, resolver, Resolver.ofSources, Configuration.obstacle?, hoff]
  cases Configuration.resolve tree ⟨w.projectSource tree, user⟩ with
  | error cause => rfl
  | ok config =>
      -- Whether the settings with those of the user are used does not matter any more.
      show ((Resolver.withoutUser tree ⟨⟨w.projectSource tree, user⟩, config⟩).mapError
        Failure.unresolvedWithoutUser >>= fun resolver => .ok resolver.current) = _
      rw [Resolver.withoutUser, Resolver.ofSources]
      cases Configuration.resolve tree ⟨w.projectSource tree, none⟩ with
      | error cause => rfl
      | ok config => rfl

/-- **A command that leaves out the settings of the user** has the same outcome in two trees that
differ in the files of the user only, exactly if the settings with those of the user meet the same
obstacle in both, or none.  The same obstacle gives the same outcome for a resolver of any settings
apart from those of the user.  Settings of the user that cannot be read are such an obstacle. -/
theorem configuration_eq_iff {environment : List (String × String)} {line : List String}
    {invocation : Cli.Invocation} {user : Option String} {a b : FileTree}
    (hread : Cli.Invocation.read? environment line = some invocation)
    (hflag : "--no-user-config" ∈ line.takeWhile (· ≠ "--"))
    (hsame : FileTree.SameBesides (Configuration.userPaths user) a b)
    (hapart : Configuration.Apart a user (invocation.workspace.projectSource a)) :
    let w := invocation.workspace
    (w.configuration a user = w.configuration b user ↔
      Configuration.obstacle? a ⟨w.projectSource a, user⟩ =
        Configuration.obstacle? b ⟨w.projectSource b, user⟩) ∧
    (∀ source, Configuration.Apart a user source →
      Configuration.obstacle? a ⟨source, user⟩ = Configuration.obstacle? b ⟨source, user⟩ →
        (Resolver.ofSources a ⟨source, user⟩).bind (Resolver.withoutUser a) =
          (Resolver.ofSources b ⟨source, user⟩).bind (Resolver.withoutUser b)) ∧
    ∀ cause, Configuration.userLayer? b user = .error cause →
      w.configuration b user = .error (.unresolved cause) := by
  intro w
  have hoff : w.withUser = false := Cli.withUser_eq_false hread hflag
  have hsource : w.projectSource b = w.projectSource a := by
    rw [projectSource, projectSource, hsame.root_eq]
  refine ⟨?_, fun source hsource hobstacle => ?_, fun cause huser => ?_⟩
  · rw [configuration_of_withUser_eq_false hoff, configuration_of_withUser_eq_false hoff, hsource,
      Configuration.resolve_none_eq hsame hapart, (unlessObstacle_injective _).eq_iff]
  · rw [Resolver.withoutUser_of_ofSources, Resolver.withoutUser_of_ofSources, hobstacle,
      Resolver.ofSources, Resolver.ofSources, Configuration.resolve_none_eq hsame hsource]
  · rw [configuration_of_withUser_eq_false hoff, Configuration.obstacle?_of_userLayer? huser,
      unlessObstacle]

/-- A project without settings, whose user has some. -/
def userTree (text : String) : FileTree :=
  (FileTree.empty "/project").write "/project/user/canon/config.json" (.file (.text text))

/-- The settings of the user do not show in those of the project. -/
theorem userTree_ignored :
    let user := some "/project/user/canon"
    let tree := userTree (Text.braced "\"c_standard\": \"c17\"")
    let w : Workspace := ⟨"rules", "templates", none, false⟩
    Cli.Invocation.read? [] ["overrides", "--no-user-config"] = some ⟨w, .overrides false⟩ ∧
      w.configuration (.empty "/project") user = w.configuration tree user ∧
      ((w.configuration tree user).toOption.map (·.languageStandard)) = some "c11" := by
  intro user tree w
  have hread : Cli.Invocation.read? [] ["overrides", "--no-user-config"] =
      some ⟨w, .overrides false⟩ := by decide +kernel
  have hsame : FileTree.SameBesides (Configuration.userPaths user) (.empty "/project") tree :=
    FileTree.sameBesides_write _ (by decide) _
  have hapart : Configuration.Apart (.empty "/project") user
      (w.projectSource (.empty "/project")) := by
    refine Configuration.apart_directory (by decide) (by decide) ?_
    decide +kernel
  obtain ⟨hiff, -⟩ := configuration_eq_iff hread (by decide) hsame hapart
  have hequal : w.configuration (.empty "/project") user = w.configuration tree user := by
    rw [hiff, Configuration.obstacle?_of_isOk (by decide +kernel),
      Configuration.obstacle?_of_isOk (by decide +kernel)]
  refine ⟨hread, hequal, ?_⟩
  rw [← hequal]
  decide +kernel

/-- Settings of the user that are malformed keep the command from running. -/
theorem malformed_user_shows :
    let user := some "/project/user/canon"
    let w : Workspace := ⟨"rules", "templates", none, false⟩
    Cli.Invocation.read? [] ["overrides", "--no-user-config"] = some ⟨w, .overrides false⟩ ∧
      FileTree.SameBesides (Configuration.userPaths user) (.empty "/project") (userTree "[") ∧
      w.configuration (.empty "/project") user ≠ w.configuration (userTree "[") user := by
  intro user w
  refine ⟨by decide +kernel, FileTree.sameBesides_write _ (by decide) _, fun hequal => ?_⟩
  have hok : (w.configuration (.empty "/project") user).isOk = true := by decide +kernel
  have hfails : (w.configuration (userTree "[") user).isOk = false := by decide +kernel
  rw [hequal, hfails] at hok
  cases hok

end Workspace

end Rulebook
