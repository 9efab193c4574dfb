/-
**What loading documents does to a registry.**

Taking a document does one of three things: nothing, if the path is not that of a document; the rule
of the document goes to the end of the rules; or an error goes to the end of the errors.  Which of
them it is depends on the document and on the ids that are taken, and on nothing else of the
registry.  So what becomes of a list of documents can be told by going through the list once with
the ids taken so far, and loading appends the outcomes, in order, to what was there.

Main definitions:

* `Rulebook.Registry.Appends` — a registry with more rules and errors behind those of another;
* `Rulebook.Registry.readRule` — the rule of a document, or what is wrong with it;
* `Rulebook.Registry.outcome`, `Rulebook.Registry.outcomes` — what becomes of one document, and of
  several, where some ids are taken.

Main results:

* `Rulebook.Registry.appends_loadDirectory`, `Rulebook.Registry.appends_loadPattern?` — **loading
  only appends**;
* `Rulebook.Registry.foldl_loadDocument` — **it appends the outcomes**, the rules among them to the
  rules and the errors to the errors;
* `Rulebook.Registry.countP_outcomes` — every document has one outcome each time it is taken;
* `Rulebook.Registry.counted_countDirectory`, `Rulebook.Registry.counted_countPattern?` — the number
  that is told is the number of rules that were added.
-/

import Rulebook.Proofs.Json.Record
import Rulebook.Proofs.Registry.Reachable
import Rulebook.Registry.Session

set_option autoImplicit false

namespace Rulebook

/-! ### Documents -/

theorem Document.parseCategories_ne_nil {raw : List Char} {categories : List Category}
    (h : parseCategories raw = .ok categories) : categories ≠ [] := by
  obtain ⟨found, -, hfound⟩ := exists_of_bind_eq_ok h
  split at hfound
  · cases hfound
  · rename_i hne
    cases hfound
    simpa using hne

/-- The rule of a document has a category. -/
theorem Document.category_ne_nil_of_parse {content : List Char} {rule : Rule}
    (h : parse content = .ok rule) : rule.category ≠ [] := by
  rw [parse, ruleOfSections] at h
  obtain ⟨settings, -, h⟩ := exists_of_bind_eq_ok h
  obtain ⟨id, -, h⟩ := exists_of_bind_eq_ok h
  obtain ⟨-, -, h⟩ := exists_of_bind_eq_ok h
  obtain ⟨names, -, h⟩ := exists_of_bind_eq_ok h
  obtain ⟨categories, hcategories, h⟩ := exists_of_bind_eq_ok h
  obtain ⟨severityName, -, h⟩ := exists_of_bind_eq_ok h
  obtain ⟨severity, -, h⟩ := exists_of_bind_eq_ok h
  obtain ⟨enabled, -, h⟩ := exists_of_bind_eq_ok h
  cases h
  exact parseCategories_ne_nil hcategories

namespace Registry

/-! ### Inserting, said by the ids -/

theorem WellIndexed.isSome_get?_iff {registry : Registry} (h : WellIndexed registry) (id : String) :
    (registry.index.get? id).isSome = true ↔ id ∈ registry.ids := by
  rw [Option.isSome_iff_exists, List.mem_iff_getElem?]
  exact exists_congr fun i => h id i

theorem insert_of_mem_ids {registry : Registry} (h : WellIndexed registry) {rule : Rule}
    (hid : rule.id ∈ registry.ids) : registry.insert rule = .error (.duplicateId rule.id) := by
  rw [Registry.insert, if_pos ((h.isSome_get?_iff rule.id).mpr hid)]

theorem insert_of_category_eq_nil {registry : Registry} (h : WellIndexed registry) {rule : Rule}
    (hid : rule.id ∉ registry.ids) (hcategory : rule.category = []) :
    registry.insert rule = .error .emptyCategory := by
  rw [Registry.insert, if_neg (fun hsome => hid ((h.isSome_get?_iff rule.id).mp hsome)),
    if_pos (by simp [hcategory])]

theorem insert_of_not_mem_ids {registry : Registry} (h : WellIndexed registry) {rule : Rule}
    (hid : rule.id ∉ registry.ids) (hcategory : rule.category ≠ []) :
    registry.insert rule = .ok { registry with
      rules := registry.rules ++ [rule]
      index := registry.index.insert rule.id registry.rules.length } := by
  rw [Registry.insert, if_neg (fun hsome => hid ((h.isSome_get?_iff rule.id).mp hsome)),
    if_neg (by simpa using hcategory)]

/-! ### Loading appends -/

/-- A registry with more rules and errors behind those of another. -/
structure Appends (before after : Registry) : Prop where
  /-- The rules that there were stand in front. -/
  rules : before.rules <+: after.rules
  /-- So do the errors. -/
  errors : before.errors <+: after.errors

theorem Appends.refl (registry : Registry) : Appends registry registry :=
  ⟨List.prefix_refl _, List.prefix_refl _⟩

theorem Appends.trans {a b c : Registry} (hab : Appends a b) (hbc : Appends b c) : Appends a c :=
  ⟨hab.rules.trans hbc.rules, hab.errors.trans hbc.errors⟩

theorem appends_insert {registry extended : Registry} {rule : Rule}
    (h : registry.insert rule = .ok extended) : Appends registry extended := by
  obtain ⟨-, -, rfl⟩ := insert_eq_ok h
  exact ⟨List.prefix_append _ _, List.prefix_refl _⟩

theorem appends_addError (registry : Registry) (error : LoadError) :
    Appends registry (registry.addError error) :=
  ⟨List.prefix_refl _, List.prefix_append _ _⟩

theorem appends_foldl {α : Type} {step : Registry → α → Registry}
    (hstep : ∀ registry a, Appends registry (step registry a)) (l : List α) (registry : Registry) :
    Appends registry (l.foldl step registry) := by
  induction l generalizing registry with
  | nil => exact Appends.refl registry
  | cons a l ih => exact (hstep registry a).trans (ih _)

/-- The rule of the document under a path, or what is wrong with the document. -/
def readRule (tree : FileTree) (path : String) : Except String Rule :=
  match tree.readText path with
  | .error e => .error ("read rule document: " ++ e.message)
  | .ok content =>
    match Document.parse content.toList with
    | .error e => .error e.message
    | .ok rule => .ok { rule with source := some path }

theorem readRule_eq_ok {tree : FileTree} {path : String} {rule : Rule}
    (h : readRule tree path = .ok rule) : rule.source = some path ∧ rule.category ≠ [] := by
  rw [readRule] at h
  split at h
  · cases h
  · split at h
    · cases h
    · rename_i hparse
      have hcategory := Document.category_ne_nil_of_parse hparse
      cases h
      exact ⟨rfl, hcategory⟩

/-- **What taking a document does**: the rule is inserted, or an error is noted. -/
theorem loadDocument_eq (tree : FileTree) (registry : Registry) {path : String}
    (hpath : Path.isDocument path = true) :
    loadDocument tree registry path =
      match readRule tree path with
      | .error message => registry.addError ⟨path, message⟩
      | .ok rule =>
        match registry.insert rule with
        | .ok extended => extended
        | .error e => registry.addError ⟨path, e.message⟩ := by
  rw [loadDocument, if_pos hpath, readRule]
  cases tree.readText path with
  | error e => rfl
  | ok content =>
      simp only [insertDocument]
      cases Document.parse content.toList with
      | error e => rfl
      | ok rule => rfl

theorem loadDocument_of_not_isDocument (tree : FileTree) (registry : Registry) {path : String}
    (hpath : Path.isDocument path = false) : loadDocument tree registry path = registry := by
  rw [loadDocument, if_neg (by simp [hpath])]

theorem appends_loadDocument (tree : FileTree) (registry : Registry) (path : String) :
    Appends registry (loadDocument tree registry path) := by
  cases hpath : Path.isDocument path with
  | false =>
      rw [loadDocument_of_not_isDocument tree registry hpath]
      exact Appends.refl registry
  | true =>
      rw [loadDocument_eq tree registry hpath]
      split
      · exact appends_addError registry _
      · split
        · rename_i hinsert
          exact appends_insert hinsert
        · exact appends_addError registry _

theorem appends_loadDirectory (tree : FileTree) (registry : Registry) (directory : String) :
    Appends registry (loadDirectory tree registry directory) := by
  rw [loadDirectory]
  split
  · exact appends_foldl (appends_loadDocument tree) _ registry
  · exact Appends.refl registry

theorem appends_loadPath (tree : FileTree) (registry : Registry) (path : String) :
    Appends registry (loadPath tree registry path) := by
  rw [loadPath]
  split
  · exact appends_loadDirectory tree registry path
  · exact appends_loadDocument tree registry path

theorem appends_loadPattern? {tree : FileTree} {registry extended : Registry} {pattern : String}
    (h : loadPattern? tree registry pattern = some extended) : Appends registry extended := by
  obtain ⟨p, -, rfl⟩ := Option.map_eq_some_iff.mp h
  exact appends_foldl (appends_loadPath tree) _ registry

/-! ### Counting -/

/-- A registry that came of another, with the number of rules that were added on the way. -/
def Counted (before : Registry) (loaded : Registry × Nat) : Prop :=
  loaded.1.rules.length = before.rules.length + loaded.2

theorem length_loadDocument (tree : FileTree) (registry : Registry) (path : String) :
    (loadDocument tree registry path).rules.length =
      registry.rules.length + (addsRule tree registry path).toNat := by
  rw [loadDocument, addsRule]
  cases Path.isDocument path with
  | false => simp
  | true =>
      simp only [if_true, Bool.true_and]
      cases tree.readText path with
      | error e => simp [addError]
      | ok content =>
          cases hinsert : registry.insertDocument path content with
          | error e => simp [Except.isOk, Except.toBool, addError, hinsert]
          | ok extended =>
              obtain ⟨rule, -, hinsert'⟩ := exists_of_bind_eq_ok hinsert
              obtain ⟨-, -, rfl⟩ := insert_eq_ok hinsert'
              simp [Except.isOk, Except.toBool, hinsert]

theorem Counted.foldl {α : Type} {step : Registry × Nat → α → Registry × Nat} {before : Registry}
    (hstep : ∀ loaded a, Counted before loaded → Counted before (step loaded a)) (l : List α)
    {loaded : Registry × Nat} (h : Counted before loaded) :
    Counted before (l.foldl step loaded) := by
  induction l generalizing loaded with
  | nil => exact h
  | cons a l ih => exact ih (hstep loaded a h)

theorem Counted.countDocument {before : Registry} {loaded : Registry × Nat}
    (h : Counted before loaded) (tree : FileTree) (path : String) :
    Counted before (countDocument tree loaded path) := by
  have hlength := length_loadDocument tree loaded.1 path
  rw [Counted] at h ⊢
  simp only [Registry.countDocument]
  omega

theorem counted_countDirectory (tree : FileTree) (registry : Registry) (directory : String) :
    Counted registry (countDirectory tree registry directory) := by
  rw [countDirectory]
  split
  · exact Counted.foldl (fun _ path h => h.countDocument tree path) _ rfl
  · rfl

theorem Counted.countPath {before : Registry} {loaded : Registry × Nat} (h : Counted before loaded)
    (tree : FileTree) (path : String) : Counted before (countPath tree loaded path) := by
  rw [Registry.countPath]
  split
  · have hbelow := counted_countDirectory tree loaded.1 path
    rw [Counted] at h hbelow ⊢
    simp only
    omega
  · exact h.countDocument tree path

theorem counted_countPattern? {tree : FileTree} {registry : Registry} {pattern : String}
    {loaded : Registry × Nat} (h : countPattern? tree registry pattern = some loaded) :
    Counted registry loaded := by
  obtain ⟨p, -, rfl⟩ := Option.map_eq_some_iff.mp h
  exact Counted.foldl (fun _ path h => h.countPath tree path) _ rfl

/-! ### Counting changes nothing -/

theorem fst_foldl {α : Type} {step : Registry × Nat → α → Registry × Nat}
    {plain : Registry → α → Registry} (hstep : ∀ loaded a, (step loaded a).1 = plain loaded.1 a)
    (l : List α) (loaded : Registry × Nat) : (l.foldl step loaded).1 = l.foldl plain loaded.1 := by
  induction l generalizing loaded with
  | nil => rfl
  | cons a l ih => rw [List.foldl_cons, List.foldl_cons, ih, hstep]

theorem fst_countDirectory (tree : FileTree) (registry : Registry) (directory : String) :
    (countDirectory tree registry directory).1 = loadDirectory tree registry directory := by
  rw [countDirectory, loadDirectory]
  split
  · exact fst_foldl (fun _ _ => rfl) _ _
  · rfl

theorem map_fst_countPattern? (tree : FileTree) (registry : Registry) (pattern : String) :
    (countPattern? tree registry pattern).map Prod.fst = loadPattern? tree registry pattern := by
  rw [countPattern?, loadPattern?, Option.map_map]
  refine Option.map_congr fun p _ => fst_foldl (fun loaded path => ?_) _ _
  rw [countPath, loadPath]
  split
  · exact fst_countDirectory tree loaded.1 path
  · rfl

theorem loadPattern?_of_countPattern? {tree : FileTree} {registry : Registry} {pattern : String}
    {loaded : Registry × Nat} (h : countPattern? tree registry pattern = some loaded) :
    loadPattern? tree registry pattern = some loaded.1 := by
  rw [← map_fst_countPattern?, h, Option.map_some]

/-! ### What becomes of documents -/

/-- What becomes of a document where some ids are taken: its rule is added, or there is an error. -/
def outcome (tree : FileTree) (taken : List String) (path : String) : Except LoadError Rule :=
  match readRule tree path with
  | .error message => .error ⟨path, message⟩
  | .ok rule =>
    if rule.id ∈ taken then .error ⟨path, (RuleError.duplicateId rule.id).message⟩ else .ok rule

/-- The ids that are taken after an outcome. -/
def takenAfter (taken : List String) : Except LoadError Rule → List String
  | .error _ => taken
  | .ok rule => taken ++ [rule.id]

/-- What becomes of several documents that are taken one after the other. -/
def outcomes (tree : FileTree) : List String → List String → List (Except LoadError Rule)
  | _, [] => []
  | taken, path :: rest =>
    outcome tree taken path ::
      outcomes tree (takenAfter taken (outcome tree taken path)) rest

/-- The rules among outcomes. -/
def accepted : List (Except LoadError Rule) → List Rule
  | [] => []
  | .ok rule :: rest => rule :: accepted rest
  | .error _ :: rest => accepted rest

/-- The errors among outcomes. -/
def rejected : List (Except LoadError Rule) → List LoadError
  | [] => []
  | .ok _ :: rest => rejected rest
  | .error e :: rest => e :: rejected rest

@[simp] theorem accepted_append (a b : List (Except LoadError Rule)) :
    accepted (a ++ b) = accepted a ++ accepted b := by
  fun_induction accepted a <;> simp_all [accepted]

/-- The document of an outcome. -/
def subject? : Except LoadError Rule → Option String
  | .error e => some e.path
  | .ok rule => rule.source

theorem subject?_outcome (tree : FileTree) (taken : List String) (path : String) :
    subject? (outcome tree taken path) = some path := by
  rw [outcome]
  split
  · rfl
  · rename_i rule hread
    split
    · rfl
    · exact (readRule_eq_ok hread).1

/-- A document with a rule that is added. -/
theorem outcome_eq_ok_iff {tree : FileTree} {taken : List String} {path : String} {rule : Rule} :
    outcome tree taken path = .ok rule ↔ readRule tree path = .ok rule ∧ rule.id ∉ taken := by
  rw [outcome]
  cases hread : readRule tree path with
  | error message => simp
  | ok found =>
      simp only [Except.ok.injEq]
      split
      · rename_i htaken
        simp only [reduceCtorEq, false_iff, not_and, not_not]
        rintro rfl
        exact htaken
      · rename_i hfree
        simp only [Except.ok.injEq]
        constructor
        · rintro rfl
          exact ⟨rfl, hfree⟩
        · exact fun h => h.1

/-- Taking a document adds what becomes of it. -/
theorem loadDocument_outcome (tree : FileTree) {registry : Registry} (h : WellIndexed registry)
    {path : String} (hpath : Path.isDocument path = true) :
    (loadDocument tree registry path).rules =
        registry.rules ++ accepted [outcome tree registry.ids path] ∧
      (loadDocument tree registry path).errors =
        registry.errors ++ rejected [outcome tree registry.ids path] := by
  rw [loadDocument_eq tree registry hpath, outcome]
  cases hread : readRule tree path with
  | error message => exact ⟨(List.append_nil _).symm, rfl⟩
  | ok rule =>
      by_cases hid : rule.id ∈ registry.ids
      · simp [insert_of_mem_ids h hid, hid, addError, accepted, rejected]
      · simp [insert_of_not_mem_ids h hid (readRule_eq_ok hread).2, hid, accepted, rejected]

theorem ids_loadDocument (tree : FileTree) {registry : Registry} (h : WellIndexed registry)
    {path : String} (hpath : Path.isDocument path = true) :
    (loadDocument tree registry path).ids =
      takenAfter registry.ids (outcome tree registry.ids path) := by
  rw [ids, (loadDocument_outcome tree h hpath).1]
  cases outcome tree registry.ids path <;> simp [ids, takenAfter, accepted]

/-- **Loading documents appends what becomes of them.** -/
theorem foldl_loadDocument (tree : FileTree) {registry : Registry} (h : Reachable registry)
    {paths : List String} (hpaths : ∀ path ∈ paths, Path.isDocument path = true) :
    (paths.foldl (loadDocument tree) registry).rules =
        registry.rules ++ accepted (outcomes tree registry.ids paths) ∧
      (paths.foldl (loadDocument tree) registry).errors =
        registry.errors ++ rejected (outcomes tree registry.ids paths) := by
  induction paths generalizing registry with
  | nil => exact ⟨(List.append_nil _).symm, (List.append_nil _).symm⟩
  | cons path paths ih =>
      obtain ⟨hpath, hpaths⟩ := List.forall_mem_cons.mp hpaths
      obtain ⟨hrules, herrors⟩ := ih (h.loadDocument tree path) hpaths
      obtain ⟨hrule, herror⟩ := loadDocument_outcome tree h.wellIndexed hpath
      rw [List.foldl_cons, hrules, herrors, ids_loadDocument tree h.wellIndexed hpath, hrule,
        herror, outcomes]
      cases outcome tree registry.ids path <;> simp [accepted, rejected]

/-- Documents are all that is taken of a list of paths. -/
theorem foldl_loadDocument_filter (tree : FileTree) (registry : Registry) (paths : List String) :
    paths.foldl (loadDocument tree) registry =
      (paths.filter Path.isDocument).foldl (loadDocument tree) registry := by
  rw [List.foldl_filter]
  congr
  funext registry path
  split
  · rfl
  · rename_i hpath
    exact loadDocument_of_not_isDocument tree registry (by simpa using hpath)

/-! ### The documents of outcomes -/

/-- A rule that is added was read from one of the documents. -/
theorem exists_of_mem_accepted {tree : FileTree} {taken paths : List String} {rule : Rule}
    (h : rule ∈ accepted (outcomes tree taken paths)) :
    ∃ path ∈ paths, readRule tree path = .ok rule ∧ rule.source = some path := by
  induction paths generalizing taken with
  | nil => simp [outcomes, accepted] at h
  | cons path paths ih =>
      rw [outcomes] at h
      cases houtcome : outcome tree taken path with
      | error e =>
          rw [houtcome, accepted] at h
          obtain ⟨other, hother, hread⟩ := ih h
          exact ⟨other, List.mem_cons_of_mem _ hother, hread⟩
      | ok first =>
          rw [houtcome, accepted] at h
          rcases List.mem_cons.mp h with rfl | hrest
          · have hread := (outcome_eq_ok_iff.mp houtcome).1
            exact ⟨path, List.mem_cons_self, hread, (readRule_eq_ok hread).1⟩
          · obtain ⟨other, hother, hread⟩ := ih hrest
            exact ⟨other, List.mem_cons_of_mem _ hother, hread⟩

/-- **Every document has one outcome each time it is taken**: a rule that comes from it, or an error
that names it.  So of all documents of some kind there are as many rules and errors as they were
taken times. -/
theorem countP_outcomes (tree : FileTree) (taken paths : List String) (kind : String → Bool) :
    (accepted (outcomes tree taken paths)).countP (·.source.any kind) +
        (rejected (outcomes tree taken paths)).countP (fun e => kind e.path) =
      paths.countP kind := by
  induction paths generalizing taken with
  | nil => rfl
  | cons path paths ih =>
      have hsubject := subject?_outcome tree taken path
      rw [outcomes, List.countP_cons, ← ih (takenAfter taken (outcome tree taken path))]
      cases houtcome : outcome tree taken path with
      | error e =>
          rw [houtcome, subject?, Option.some_inj] at hsubject
          rw [accepted, rejected, List.countP_cons, hsubject]
          omega
      | ok rule =>
          rw [houtcome, subject?] at hsubject
          rw [accepted, rejected, List.countP_cons, hsubject, Option.any_some]
          omega

end Registry

end Rulebook
