/-
**Keeping the settings of a project.**

A resolver knows where the settings of a project come from and keeps what they were when they were
last read.  If they cannot be read it keeps what it has.

Main definitions:

* `Rulebook.Resolver`, `Rulebook.Resolver.ofSources` — resolvers, and making one;
* `Rulebook.Resolver.withoutUser`, `Rulebook.Resolver.reload` — leaving out the settings of the
  user, and reading again;
* `Rulebook.Resolver.Request`, `Rulebook.Resolver.Session`, `Rulebook.Resolver.Session.step` — what
  may be asked of a resolver while files change, and what comes of it.
-/

import Rulebook.Configuration.Layers

set_option autoImplicit false

namespace Rulebook

/-- Settings and where they come from. -/
structure Resolver where
  /-- Where they come from. -/
  sources : Configuration.Sources
  /-- What they were when they were last read. -/
  current : Configuration

namespace Resolver

/-- The resolver for some sources. -/
def ofSources (tree : FileTree) (sources : Configuration.Sources) :
    Except Configuration.LoadError Resolver :=
  (Configuration.resolve tree sources).map fun config => ⟨sources, config⟩

/-- The resolver without the settings of the user. -/
def withoutUser (tree : FileTree) (resolver : Resolver) :
    Except Configuration.LoadError Resolver :=
  ofSources tree { resolver.sources with user := none }

/-- The resolver with the settings as they are now. -/
def reload (tree : FileTree) (resolver : Resolver) : Except Configuration.LoadError Resolver :=
  ofSources tree resolver.sources

/-! ### Sessions -/

/-- What may be asked. -/
inductive Request where
  /-- Write a file. -/
  | write (path : String) (node : FileTree.Node)
  /-- Take a file away. -/
  | remove (path : String)
  /-- Make a resolver. -/
  | make (project : Configuration.ProjectSource)
  /-- Leave out the settings of the user. -/
  | withoutUser
  /-- Read again. -/
  | reload
  /-- Tell the settings. -/
  | get

/-- What comes of it. -/
inductive Response where
  /-- Nothing to tell. -/
  | done
  /-- The settings. -/
  | settings (config : Configuration)
  /-- The settings cannot be read. -/
  | failed (cause : Configuration.LoadError)
  /-- There is no resolver. -/
  | noResolver

/-- The files and the resolver. -/
structure Session where
  /-- The files. -/
  tree : FileTree
  /-- The directory of the settings of the user. -/
  userDirectory : String
  /-- The resolver, once one was made. -/
  resolver : Option Resolver

namespace Session

/-- A session with a new resolver; without it if it cannot be made. -/
def adopt (session : Session) (made : Except Configuration.LoadError Resolver) :
    Session × Response :=
  match made with
  | .ok resolver => ({ session with resolver := some resolver }, .settings resolver.current)
  | .error cause => (session, .failed cause)

/-- What comes of a request to the resolver. -/
def ask (session : Session) (f : Resolver → Session × Response) : Session × Response :=
  match session.resolver with
  | some resolver => f resolver
  | none => (session, .noResolver)

/-- What comes of a request. -/
def step (session : Session) : Request → Session × Response
  | .write path node => ({ session with tree := session.tree.write path node }, .done)
  | .remove path => ({ session with tree := session.tree.remove path }, .done)
  | .make project =>
    session.adopt (ofSources session.tree ⟨project, some session.userDirectory⟩)
  | .withoutUser => session.ask fun resolver => session.adopt (resolver.withoutUser session.tree)
  | .reload => session.ask fun resolver => session.adopt (resolver.reload session.tree)
  | .get => session.ask fun resolver => (session, .settings resolver.current)

end Session

end Resolver

end Rulebook
