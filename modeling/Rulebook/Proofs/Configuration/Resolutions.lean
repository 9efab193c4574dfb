/-
**What a resolver tells.**

While files change, a resolver is made, told to leave out the settings of the user, and told to read
again.  Each of these requests resolves the settings of some sources from the files as they are.  If
that succeeds the resolver has the new settings, whatever it had before; if it fails nothing has
happened.  So the settings that are told are those of the last request that succeeded: what the
sources of the resolver amounted to at this moment.

Main definitions:

* `Rulebook.Configuration.Faulty`, `Rulebook.Configuration.Obstructs` — what is wrong with a file,
  and what stands in the way of settings;
* `Rulebook.Resolver.Session.run` — a session after several requests;
* `Rulebook.Resolver.Session.target?` — the sources whose settings a request resolves;
* `Rulebook.Resolver.Session.Resolves`, `Rulebook.Resolver.Session.ResolvesNothing` — a request that
  resolves settings, and requests that do not.

Main results:

* `Rulebook.Configuration.resolve_eq_error_iff` — settings cannot be resolved exactly if something
  stands in their way;
* `Rulebook.Resolver.Session.step_of_target?` — what a request that resolves settings does;
* `Rulebook.Resolver.Session.resolver_run` — the resolver is that of the last resolution;
* `Rulebook.Resolver.Session.told_after_run` — **so the settings that are told are those of the last
  resolution, and a request that fails leaves everything as it is**.
-/

import Rulebook.Configuration.Resolver
import Rulebook.Text.Page

set_option autoImplicit false

namespace Rulebook

/-! ### What stands in the way of settings -/

namespace Configuration

/-- What is wrong with a file of settings. -/
inductive Faulty (tree : FileTree) (path : String) : LayerError → Prop where
  /-- Something is there that cannot be read. -/
  | unreadable {cause : FileError} :
      tree.readText path = .error cause → cause ≠ .notFound →
      Faulty tree path (.unreadable path cause)
  /-- The text is not spelled as its format demands. -/
  | malformed {content : String} :
      tree.readText path = .ok content → readValue? path content = none →
      Faulty tree path (.malformed path content)

/-- What is wrong with the first file that is there, of some in a directory. -/
def FirstFaulty (tree : FileTree) (directory : String) (names : List String)
    (cause : LayerError) : Prop :=
  ∃ before name after, names = before ++ name :: after ∧
    (∀ other ∈ before, tree.readText (Path.join directory other) = .error .notFound) ∧
    Faulty tree (Path.join directory name) cause

/-- What stands in the way of the settings of some sources. -/
inductive Obstructs (tree : FileTree) (sources : Sources) : LoadError → Prop where
  /-- A file of the user. -/
  | user {directory : String} {cause : LayerError} :
      sources.user = some directory → FirstFaulty tree directory userFiles cause →
      Obstructs tree sources (.user directory cause)
  /-- A file of the project, in one of the usual places. -/
  | project {user : Option Json} {directory : String} {cause : LayerError} :
      userLayer? tree sources.user = .ok user → sources.project = .directory directory →
      FirstFaulty tree directory projectFiles cause →
      Obstructs tree sources (.project directory cause)
  /-- The file that was asked for. -/
  | file {user : Option Json} {path : String} {cause : LayerError} :
      userLayer? tree sources.user = .ok user → sources.project = .file path →
      Faulty tree path cause → Obstructs tree sources (.file cause)
  /-- The lack of the file that was asked for. -/
  | missing {user : Option Json} {path : String} :
      userLayer? tree sources.user = .ok user → sources.project = .file path →
      tree.readText path = .error .notFound → Obstructs tree sources (.missing path)
  /-- What the layers amount to. -/
  | mismatch {user project : Option Json} {cause : Json.Mismatch} :
      userLayer? tree sources.user = .ok user →
      projectLayer? tree sources.project = .ok project →
      ofJson (withLayer (withLayer standard.toJson user) project) = .error cause →
      Obstructs tree sources (.mismatch cause)

theorem readLayer?_eq_none_iff {tree : FileTree} {path : String} :
    readLayer? tree path = .ok none ↔ tree.readText path = .error .notFound := by
  rw [readLayer?]
  split
  · simp_all
  · simp_all
  · rename_i content hread
    split <;> simp_all

theorem readLayer?_eq_error_iff {tree : FileTree} {path : String} {cause : LayerError} :
    readLayer? tree path = .error cause ↔ Faulty tree path cause := by
  constructor
  · intro h
    rw [readLayer?] at h
    split at h
    · cases h
    · rename_i error hne hread
      cases h
      exact .unreadable hread hne
    · rename_i content hread
      split at h
      · cases h
      · rename_i hvalue
        cases h
        exact .malformed hread hvalue
  · intro h
    rw [readLayer?]
    cases h with
    | unreadable hread hne =>
        rw [hread]
        split <;> simp_all
    | malformed hread hvalue => simp only [hread, hvalue]

theorem firstLayer?_eq_error_iff {tree : FileTree} {directory : String} {names : List String}
    {cause : LayerError} :
    firstLayer? tree directory names = .error cause ↔ FirstFaulty tree directory names cause := by
  induction names with
  | nil =>
      constructor
      · intro h
        cases h
      · rintro ⟨before, name, after, hsplit, -⟩
        exact absurd hsplit.symm (List.append_ne_nil_of_right_ne_nil before (List.cons_ne_nil _ _))
  | cons name rest ih =>
      rw [firstLayer?_cons]
      constructor
      · intro h
        split at h
        · rename_i hnone
          obtain ⟨before, other, after, rfl, hbefore, hfaulty⟩ := ih.mp h
          exact ⟨name :: before, other, after, rfl,
            List.forall_mem_cons.mpr ⟨readLayer?_eq_none_iff.mp hnone, hbefore⟩, hfaulty⟩
        · exact ⟨[], name, rest, rfl, nofun, readLayer?_eq_error_iff.mp h⟩
      · rintro ⟨before, other, after, hsplit, hbefore, hfaulty⟩
        cases before with
        | nil =>
            obtain ⟨rfl, rfl⟩ := List.cons.inj hsplit
            rw [readLayer?_eq_error_iff.mpr hfaulty]
        | cons first before =>
            obtain ⟨rfl, rfl⟩ := List.cons.inj hsplit
            obtain ⟨hfirst, hbefore⟩ := List.forall_mem_cons.mp hbefore
            rw [readLayer?_eq_none_iff.mpr hfirst]
            exact ih.mpr ⟨before, other, after, rfl, hbefore, hfaulty⟩

/-- A fault under another heading comes from a fault. -/
theorem mapError_eq_error_iff {ε ε' α : Type} {f : ε → ε'} {x : Except ε α} {cause : ε'} :
    x.mapError f = .error cause ↔ ∃ fault, x = .error fault ∧ cause = f fault := by
  cases x with
  | ok a =>
      constructor
      · intro h
        cases h
      · rintro ⟨fault, h, -⟩
        cases h
  | error fault =>
      constructor
      · intro h
        cases h
        exact ⟨fault, rfl, rfl⟩
      · rintro ⟨other, h, rfl⟩
        cases h
        rfl

theorem userLayer?_eq_error_iff {tree : FileTree} {user : Option String} {cause : LoadError} :
    userLayer? tree user = .error cause ↔
      ∃ directory fault, user = some directory ∧ FirstFaulty tree directory userFiles fault ∧
        cause = .user directory fault := by
  cases user with
  | none => simp [userLayer?]
  | some directory => simp [userLayer?, mapError_eq_error_iff, firstLayer?_eq_error_iff]

theorem projectLayer?_eq_error_iff {tree : FileTree} {source : ProjectSource} {cause : LoadError} :
    projectLayer? tree source = .error cause ↔
      (∃ directory fault, source = .directory directory ∧
        FirstFaulty tree directory projectFiles fault ∧ cause = .project directory fault) ∨
      (∃ path fault, source = .file path ∧ Faulty tree path fault ∧ cause = .file fault) ∨
      ∃ path, source = .file path ∧ tree.readText path = .error .notFound ∧
        cause = .missing path := by
  cases source with
  | directory directory =>
      simp [projectLayer?, mapError_eq_error_iff, firstLayer?_eq_error_iff]
  | file path =>
      rw [projectLayer?]
      cases hlayer : readLayer? tree path with
      | ok layer =>
          cases layer with
          | none =>
              simp [← readLayer?_eq_error_iff, ← readLayer?_eq_none_iff, hlayer, @eq_comm _ cause]
          | some layer =>
              simp [← readLayer?_eq_error_iff, ← readLayer?_eq_none_iff, hlayer]
      | error fault =>
          simp [← readLayer?_eq_error_iff, ← readLayer?_eq_none_iff, hlayer, @eq_comm _ cause]

/-- **Settings cannot be resolved exactly if something stands in their way.** -/
theorem resolve_eq_error_iff {tree : FileTree} {sources : Sources} {cause : LoadError} :
    resolve tree sources = .error cause ↔ Obstructs tree sources cause := by
  constructor
  · intro h
    rw [resolve] at h
    cases huser : userLayer? tree sources.user with
    | error fault =>
        rw [huser] at h
        cases h
        obtain ⟨directory, fault, hdirectory, hfaulty, rfl⟩ := userLayer?_eq_error_iff.mp huser
        exact .user hdirectory hfaulty
    | ok user =>
        rw [huser] at h
        cases hproject : projectLayer? tree sources.project with
        | error fault =>
            rw [hproject] at h
            cases h
            obtain ⟨directory, fault, hsource, hfaulty, rfl⟩ |
              ⟨path, fault, hsource, hfaulty, rfl⟩ | ⟨path, hsource, hmissing, rfl⟩ :=
              projectLayer?_eq_error_iff.mp hproject
            · exact .project huser hsource hfaulty
            · exact .file huser hsource hfaulty
            · exact .missing huser hsource hmissing
        | ok project =>
            rw [hproject] at h
            obtain ⟨fault, hvalue, rfl⟩ := mapError_eq_error_iff.mp h
            exact .mismatch huser hproject hvalue
  · intro h
    rw [resolve]
    cases h with
    | @user directory fault hdirectory hfaulty =>
        have huser := userLayer?_eq_error_iff.mpr ⟨directory, fault, hdirectory, hfaulty, rfl⟩
        rw [huser]
        rfl
    | @project user directory fault huser hsource hfaulty =>
        have hproject := projectLayer?_eq_error_iff.mpr
          (.inl ⟨directory, fault, hsource, hfaulty, rfl⟩)
        rw [huser, hproject]
        rfl
    | @file user path fault huser hsource hfaulty =>
        have hproject := projectLayer?_eq_error_iff.mpr
          (.inr (.inl ⟨path, fault, hsource, hfaulty, rfl⟩))
        rw [huser, hproject]
        rfl
    | @missing user path huser hsource hmissing =>
        have hproject := projectLayer?_eq_error_iff.mpr
          (.inr (.inr ⟨path, hsource, hmissing, rfl⟩))
        rw [huser, hproject]
        rfl
    | @mismatch user project fault huser hproject hvalue =>
        rw [huser, hproject]
        exact mapError_eq_error_iff.mpr ⟨fault, hvalue, rfl⟩

end Configuration

namespace Resolver.Session

open Rulebook.Configuration

/-! ### Runs -/

/-- A session after several requests. -/
def run (session : Session) (requests : List Request) : Session :=
  requests.foldl (fun session request => (session.step request).1) session

theorem run_cons (session : Session) (request : Request) (requests : List Request) :
    session.run (request :: requests) = (session.step request).1.run requests := rfl

/-- The sources whose settings a request resolves, if it resolves any. -/
def target? (session : Session) : Request → Option Sources
  | .make project => some ⟨project, some session.userDirectory⟩
  | .withoutUser => session.resolver.map fun resolver => { resolver.sources with user := none }
  | .reload => session.resolver.map Resolver.sources
  | _ => none

/-- A request resolves the settings of some sources, and these are the settings. -/
structure Resolves (session : Session) (request : Request) (sources : Sources)
    (config : Configuration) : Prop where
  /-- The request is about the sources. -/
  target?_eq : session.target? request = some sources
  /-- What they amount to in the files as they are. -/
  resolve_eq : resolve session.tree sources = .ok config

/-- No request of a run resolves settings. -/
def ResolvesNothing : Session → List Request → Prop
  | _, [] => True
  | session, request :: requests =>
    (∀ sources config, ¬ session.Resolves request sources config) ∧
      ResolvesNothing (session.step request).1 requests

/-! ### Single requests -/

variable {session : Session} {request : Request} {sources : Sources} {config : Configuration}

/-- What a request that is about some sources does. -/
theorem step_of_target? (h : session.target? request = some sources) :
    session.step request = session.adopt (ofSources session.tree sources) := by
  cases request with
  | make project =>
      cases h
      rfl
  | withoutUser =>
      obtain ⟨resolver, hresolver, rfl⟩ := Option.map_eq_some_iff.mp h
      rw [step, ask, hresolver]
      rfl
  | reload =>
      obtain ⟨resolver, hresolver, rfl⟩ := Option.map_eq_some_iff.mp h
      rw [step, ask, hresolver]
      rfl
  | write path node => cases h
  | remove path => cases h
  | get => cases h

/-- A request that is about no sources leaves the resolver as it is, and does not fail. -/
theorem step_of_target?_eq_none (h : session.target? request = none) :
    (session.step request).1.resolver = session.resolver ∧
      ∀ cause, (session.step request).2 ≠ .failed cause := by
  cases request with
  | make project => cases h
  | withoutUser =>
      rw [step, ask, Option.map_eq_none_iff.mp h]
      exact ⟨(Option.map_eq_none_iff.mp h).symm ▸ rfl, nofun⟩
  | reload =>
      rw [step, ask, Option.map_eq_none_iff.mp h]
      exact ⟨(Option.map_eq_none_iff.mp h).symm ▸ rfl, nofun⟩
  | write path node => exact ⟨rfl, nofun⟩
  | remove path => exact ⟨rfl, nofun⟩
  | get =>
      rw [step, ask]
      split
      · exact ⟨rfl, nofun⟩
      · exact ⟨rfl, nofun⟩

/-- **Settings that are resolved replace whatever there was.** -/
theorem Resolves.step_eq (h : session.Resolves request sources config) :
    session.step request =
      ({ session with resolver := some ⟨sources, config⟩ }, .settings config) := by
  rw [step_of_target? h.target?_eq, ofSources, h.resolve_eq]
  rfl

/-- **Settings that cannot be resolved leave everything as it is.** -/
theorem step_of_obstructs {cause : Configuration.LoadError}
    (htarget : session.target? request = some sources)
    (h : Obstructs session.tree sources cause) : session.step request = (session, .failed cause) := by
  rw [step_of_target? htarget, ofSources, resolve_eq_error_iff.mpr h]
  rfl

/-- What a request about some sources comes to. -/
theorem resolves_or_obstructs (htarget : session.target? request = some sources) :
    (∃ config, session.Resolves request sources config) ∨
      ∃ cause, Obstructs session.tree sources cause := by
  cases hresolve : resolve session.tree sources with
  | ok config => exact Or.inl ⟨config, htarget, hresolve⟩
  | error cause => exact Or.inr ⟨cause, resolve_eq_error_iff.mp hresolve⟩

/-- **A request fails exactly if something stands in the way of its sources.** -/
theorem step_snd_eq_failed_iff {cause : Configuration.LoadError} :
    (session.step request).2 = .failed cause ↔
      ∃ sources, session.target? request = some sources ∧
        Obstructs session.tree sources cause := by
  constructor
  · intro h
    cases htarget : session.target? request with
    | none => exact absurd h ((step_of_target?_eq_none htarget).2 cause)
    | some sources =>
        obtain ⟨config, hresolves⟩ | ⟨other, hobstructs⟩ := resolves_or_obstructs htarget
        · rw [hresolves.step_eq] at h
          cases h
        · rw [step_of_obstructs htarget hobstructs] at h
          cases h
          exact ⟨sources, rfl, hobstructs⟩
  · rintro ⟨sources, htarget, hobstructs⟩
    rw [step_of_obstructs htarget hobstructs]

/-- A request that resolves nothing leaves the resolver as it is. -/
theorem resolver_step_of_not_resolves
    (h : ∀ sources config, ¬ session.Resolves request sources config) :
    (session.step request).1.resolver = session.resolver := by
  cases htarget : session.target? request with
  | none => exact (step_of_target?_eq_none htarget).1
  | some sources =>
      obtain ⟨config, hresolves⟩ | ⟨cause, hobstructs⟩ := resolves_or_obstructs htarget
      · exact absurd hresolves (h sources config)
      · rw [step_of_obstructs htarget hobstructs]

/-! ### Runs of requests -/

/-- **The resolver is that of the last resolution**, or the one there was if there is none. -/
theorem resolver_run (session : Session) (requests : List Request) :
    (session.ResolvesNothing requests ∧ (session.run requests).resolver = session.resolver) ∨
    ∃ before request after sources config, requests = before ++ request :: after ∧
      (session.run before).Resolves request sources config ∧
      (session.run (before ++ [request])).ResolvesNothing after ∧
      (session.run requests).resolver = some ⟨sources, config⟩ := by
  induction requests generalizing session with
  | nil => exact Or.inl ⟨trivial, rfl⟩
  | cons first requests ih =>
      rw [run_cons]
      obtain ⟨hnothing, hresolver⟩ |
        ⟨before, request, after, sources, config, rfl, hresolves, hnothing, hresolver⟩ :=
        ih (session.step first).1
      · -- What matters is whether the first request resolves settings.
        by_cases hfirst : ∃ sources config, session.Resolves first sources config
        · obtain ⟨sources, config, hresolves⟩ := hfirst
          refine Or.inr ⟨[], first, requests, sources, config, rfl, hresolves, hnothing, ?_⟩
          rw [hresolver, hresolves.step_eq]
        · have hnone : ∀ sources config, ¬ session.Resolves first sources config :=
            fun sources config hresolves => hfirst ⟨sources, config, hresolves⟩
          refine Or.inl ⟨⟨hnone, hnothing⟩, ?_⟩
          rw [hresolver, resolver_step_of_not_resolves hnone]
      · exact Or.inr ⟨first :: before, request, after, sources, config, rfl, hresolves, hnothing,
          hresolver⟩

/-- **What is told after any requests.**  If no request resolved settings there is no resolver.
Otherwise the settings are those that the last of these requests resolved: what the sources of the
resolver amounted to in the files as they were then.  A request fails exactly if something stands in
the way of its sources, and then everything stays as it is; whether it succeeds, and what it leaves
if it does, does not depend on the settings that there were. -/
theorem told_after_run (tree : FileTree) (userDirectory : String) (requests : List Request) :
    let start : Session := ⟨tree, userDirectory, none⟩
    let session := start.run requests
    let told := (session.step .get).2
    (start.ResolvesNothing requests ∧ session.resolver = none ∧ told = .noResolver ∨
      ∃ before request after sources config, requests = before ++ request :: after ∧
        (start.run before).Resolves request sources config ∧
        (start.run (before ++ [request])).ResolvesNothing after ∧
        session.resolver = some ⟨sources, config⟩ ∧ told = .settings config) ∧
    (∀ request cause, (session.step request).2 = .failed cause ↔
      ∃ sources, session.target? request = some sources ∧
        Obstructs session.tree sources cause) ∧
    (∀ request cause, (session.step request).2 = .failed cause →
      (session.step request).1 = session) ∧
    ∀ resolver other request sources, session.resolver = some resolver →
      session.target? request = some sources →
        let changed : Session := { session with resolver := some { resolver with current := other } }
        (changed.step request).2 = (session.step request).2 ∧
          ∀ config, (session.step request).2 = .settings config →
            (changed.step request).1 = (session.step request).1 := by
  intro start session told
  refine ⟨?_, fun request cause => step_snd_eq_failed_iff, fun request cause hfailed => ?_,
    fun resolver other request sources hresolver htarget => ?_⟩
  · obtain ⟨hnothing, hresolver⟩ |
      ⟨before, request, after, sources, config, hsplit, hresolves, hnothing, hresolver⟩ :=
      resolver_run start requests
    · have hnone : session.resolver = none := hresolver
      refine Or.inl ⟨hnothing, hnone, ?_⟩
      show (session.ask _).2 = _
      rw [ask, hnone]
    · have hsome : session.resolver = some ⟨sources, config⟩ := hresolver
      refine Or.inr ⟨before, request, after, sources, config, hsplit, hresolves, hnothing, hsome, ?_⟩
      show (session.ask _).2 = _
      rw [ask, hsome]
  · obtain ⟨sources, htarget, hobstructs⟩ := step_snd_eq_failed_iff.mp hfailed
    rw [step_of_obstructs htarget hobstructs]
  · intro changed
    have hchanged : changed.target? request = some sources := by
      rw [← htarget]
      cases request <;> simp [target?, changed, hresolver]
    obtain ⟨config, hresolves⟩ | ⟨cause, hobstructs⟩ := resolves_or_obstructs htarget
    · have hagain : changed.Resolves request sources config := ⟨hchanged, hresolves.resolve_eq⟩
      rw [hresolves.step_eq, hagain.step_eq]
      exact ⟨rfl, fun _ _ => rfl⟩
    · have hagain : Obstructs changed.tree sources cause := hobstructs
      rw [step_of_obstructs htarget hobstructs, step_of_obstructs hchanged hagain]
      exact ⟨rfl, nofun⟩

/-- Settings are read without those of the user, and then the file is spoilt. -/
def spoiltRequests : List Request :=
  [.write "canon.json" (.file (.text (Text.braced "\"c_standard\": \"c99\""))),
    .make (.directory "/project"), .withoutUser, .write "canon.json" (.file (.text "["))]

/-- Settings that were read are told although they cannot be read again. -/
theorem spoiltRequests_told :
    let session := (⟨.empty "/project", "/project/user/canon", none⟩ : Session).run spoiltRequests
    (∃ cause, (session.step .reload).2 = .failed cause ∧ (session.step .reload).1 = session) ∧
      ∃ config, (session.step .get).2 = .settings config ∧ config.languageStandard = "c99" := by
  intro session
  obtain ⟨htold, hfailed, hkept, -⟩ :=
    told_after_run (.empty "/project") "/project/user/canon" spoiltRequests
  have hresolver : session.resolver.map (fun r => (r.sources, r.current.languageStandard)) =
      some (⟨.directory "/project", none⟩, "c99") := by decide +kernel
  obtain ⟨resolver, hsome, hpair⟩ := Option.map_eq_some_iff.mp hresolver
  obtain ⟨hsources, hstandard⟩ := Prod.mk.inj hpair
  constructor
  · have htarget : session.target? .reload = some ⟨.directory "/project", none⟩ := by
      rw [target?, hsome, Option.map_some, hsources]
    have hobstacle : (resolve session.tree ⟨.directory "/project", none⟩).isOk = false := by
      decide +kernel
    cases hresolve : resolve session.tree ⟨.directory "/project", none⟩ with
    | ok config =>
        rw [hresolve] at hobstacle
        cases hobstacle
    | error cause =>
        have hanswer := (hfailed .reload cause).mpr
          ⟨_, htarget, resolve_eq_error_iff.mp hresolve⟩
        exact ⟨cause, hanswer, hkept .reload cause hanswer⟩
  · obtain ⟨-, hnone, -⟩ | ⟨-, -, -, sources, config, -, -, -, hconfig, hanswer⟩ := htold
    · cases hnone.symm.trans hsome
    · cases hconfig.symm.trans hsome
      exact ⟨config, hanswer, hstandard⟩

end Resolver.Session

end Rulebook
