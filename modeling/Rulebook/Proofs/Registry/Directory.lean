/-
**What a directory load accounts for.**

Loading a directory takes the documents below it one after the other.  Each of them is accounted for
once: it is the source of one rule, or there is one error that names it.  It is the source of a rule
exactly if it can be read and is accepted, and no document that was loaded before it has the id.

A document that fails takes no id.  So what becomes of the other documents does not depend on how it
fails: with any other content that fails as well, the rules and the other errors are the same.

Main definitions:

* `Rulebook.Registry.Accounts` — a registry and a number that account for the documents below a
  directory;
* `Rulebook.FileTree.Content.isBroken` — contents that cannot be read or are not accepted;
* `Rulebook.Registry.AgreesBesides` — registries that differ in the messages for one file only.

Main results:

* `Rulebook.Registry.accounts_countDirectory` — a directory load accounts for every document once;
* `Rulebook.Registry.agreesBesides_ofDirectory` — failures are isolated;
* `Rulebook.Registry.directory_accounted` — **both, for every tree and directory**.
-/

import Rulebook.Proofs.FileTree.Content
import Rulebook.Proofs.Registry.Loading

set_option autoImplicit false

namespace Rulebook

/-- Whether a content cannot be read or is not accepted as a document. -/
def FileTree.Content.isBroken : FileTree.Content → Bool
  | .text value => !(Document.parse value.toList).isOk
  | .binary => true

namespace Registry

/-! ### Outcomes in order -/

theorem sublist_sources (tree : FileTree) (taken paths : List String) :
    ((accepted (outcomes tree taken paths)).map (·.source)).Sublist (paths.map some) := by
  induction paths generalizing taken with
  | nil => exact List.Sublist.refl _
  | cons path paths ih =>
      rw [outcomes, List.map_cons]
      cases houtcome : outcome tree taken path with
      | error e => exact (ih _).cons (some path)
      | ok rule =>
          have hsource := (readRule_eq_ok (outcome_eq_ok_iff.mp houtcome).1).1
          rw [accepted, List.map_cons, hsource]
          exact (ih _).cons_cons (some path)

theorem sublist_errors (tree : FileTree) (taken paths : List String) :
    ((rejected (outcomes tree taken paths)).map (·.path)).Sublist paths := by
  induction paths generalizing taken with
  | nil => exact List.Sublist.refl _
  | cons path paths ih =>
      have hsubject := subject?_outcome tree taken path
      rw [outcomes]
      cases houtcome : outcome tree taken path with
      | error e =>
          rw [houtcome, subject?, Option.some_inj] at hsubject
          rw [rejected, List.map_cons, hsubject]
          exact (ih _).cons_cons path
      | ok rule => exact (ih _).cons path

/-- Documents are taken in order: what becomes of the first ones decides which ids are taken for the
others. -/
theorem outcomes_append (tree : FileTree) (taken before after : List String) :
    outcomes tree taken (before ++ after) =
      outcomes tree taken before ++
        outcomes tree (taken ++ (accepted (outcomes tree taken before)).map (·.id)) after := by
  induction before generalizing taken with
  | nil => simp [outcomes, accepted]
  | cons path before ih =>
      rw [List.cons_append, outcomes, outcomes, ih]
      cases houtcome : outcome tree taken path <;> simp [accepted, takenAfter]

/-- The rules that come from the first documents are those that these give on their own. -/
theorem mem_accepted_append_iff {tree : FileTree} {taken before after : List String}
    (hnodup : (before ++ after).Nodup) (rule : Rule) :
    rule ∈ accepted (outcomes tree taken (before ++ after)) ∧ rule.source ∈ before.map some ↔
      rule ∈ accepted (outcomes tree taken before) := by
  rw [outcomes_append, accepted_append, List.mem_append]
  constructor
  · rintro ⟨hearly | hlate, hsource⟩
    · exact hearly
    · obtain ⟨late, hlate, -, hsame⟩ := exists_of_mem_accepted hlate
      obtain ⟨early, hearly, heq⟩ := List.mem_map.mp hsource
      rw [hsame, Option.some_inj] at heq
      exact absurd heq ((List.nodup_append.mp hnodup).2.2 early hearly late hlate)
  · intro hearly
    obtain ⟨early, hmem, -, hsource⟩ := exists_of_mem_accepted hearly
    exact ⟨.inl hearly, hsource ▸ List.mem_map_of_mem hmem⟩

/-- **The first document with an id gives the rule.** -/
theorem mem_accepted_iff {tree : FileTree} {before after : List String} {path : String}
    (hnodup : (before ++ path :: after).Nodup) (rule : Rule) :
    rule ∈ accepted (outcomes tree [] (before ++ path :: after)) ∧ rule.source = some path ↔
      readRule tree path = .ok rule ∧
        ∀ earlier ∈ accepted (outcomes tree [] (before ++ path :: after)),
          earlier.source ∈ before.map some → earlier.id ≠ rule.id := by
  have hnodup' : ((before ++ [path]) ++ after).Nodup := by simpa using hnodup
  have hnew : path ∉ before := fun hmem =>
    (List.nodup_append.mp hnodup).2.2 path hmem path List.mem_cons_self rfl
  have hstep := outcomes_append tree [] before [path]
  rw [List.nil_append, outcomes, outcomes] at hstep
  -- What the first documents give decides what becomes of this one.
  have htaken : outcome tree ((accepted (outcomes tree [] before)).map (·.id)) path = .ok rule ↔
      readRule tree path = .ok rule ∧
        ∀ earlier ∈ accepted (outcomes tree [] (before ++ path :: after)),
          earlier.source ∈ before.map some → earlier.id ≠ rule.id := by
    rw [outcome_eq_ok_iff, List.mem_map, not_exists]
    refine and_congr_right fun _ => forall_congr' fun earlier => ?_
    rw [not_and, ← mem_accepted_append_iff hnodup, and_imp]
  rw [← htaken]
  constructor
  · rintro ⟨hmem, hsource⟩
    have hshort : rule ∈ accepted (outcomes tree [] (before ++ [path])) := by
      refine (mem_accepted_append_iff hnodup' rule).mp ⟨by simpa using hmem, ?_⟩
      rw [hsource]
      exact List.mem_map_of_mem (List.mem_append_right _ (List.mem_singleton_self path))
    rw [hstep, accepted_append] at hshort
    rcases List.mem_append.mp hshort with hearly | hhere
    · obtain ⟨other, hother, -, hsame⟩ := exists_of_mem_accepted hearly
      rw [hsource, Option.some_inj] at hsame
      exact absurd (hsame ▸ hother) hnew
    · cases houtcome : outcome tree ((accepted (outcomes tree [] before)).map (·.id)) path with
      | error e => simp [houtcome, accepted] at hhere
      | ok found =>
          rw [houtcome, accepted, accepted, List.mem_singleton] at hhere
          rw [hhere]
  · intro houtcome
    rw [houtcome] at hstep
    have hshort : rule ∈ accepted (outcomes tree [] (before ++ [path])) := by
      simp [hstep, accepted]
    have hlong := ((mem_accepted_append_iff hnodup' rule).mpr hshort).1
    exact ⟨by simpa using hlong, (readRule_eq_ok (outcome_eq_ok_iff.mp houtcome).1).1⟩

/-! ### A directory load accounts for every document -/

/-- A registry and a number that account for the documents below a directory. -/
structure Accounts (tree : FileTree) (directory : String) (loaded : Registry × Nat) : Prop where
  /-- The documents are the files with their extension below the directory. -/
  listed : ∀ path, path ∈ tree.documents directory ↔
    Path.isDocument path = true ∧
      ∃ way, tree.HasFile directory way ∧ path = Path.joinAll directory way
  /-- They come in the order of the names on the ways to them. -/
  inOrder : ∃ ways : List (List String),
    tree.documents directory = ways.map (Path.joinAll directory) ∧
      ways.Pairwise fun a b => compare a b = .lt
  /-- Each of them is the source of one rule or named by one error. -/
  once : ∀ path ∈ tree.documents directory,
    loaded.1.rules.countP (·.source == some path) + loaded.1.errors.countP (·.path == path) = 1
  /-- The rules come from documents, in order. -/
  rulesInOrder : (loaded.1.rules.map (·.source)).Sublist ((tree.documents directory).map some)
  /-- The errors name documents, in order. -/
  errorsInOrder : (loaded.1.errors.map (·.path)).Sublist (tree.documents directory)
  /-- The number is that of the rules. -/
  counted : loaded.2 = loaded.1.rules.length
  /-- A document gives a rule exactly if it reads as this rule and no earlier one gave its id. -/
  firstWins : ∀ before path after, tree.documents directory = before ++ path :: after →
    ∀ rule, rule ∈ loaded.1.rules ∧ rule.source = some path ↔
      readRule tree path = .ok rule ∧
        ∀ earlier ∈ loaded.1.rules, earlier.source ∈ before.map some → earlier.id ≠ rule.id

theorem loadDirectory_eq_foldl (tree : FileTree) (registry : Registry) (directory : String) :
    loadDirectory tree registry directory =
      (tree.documents directory).foldl (loadDocument tree) registry := by
  rw [loadDirectory]
  split
  · rename_i hdirectory
    rw [FileTree.walk_eq hdirectory, foldl_loadDocument_filter, FileTree.documents]
  · rename_i hdirectory
    rw [FileTree.documents_of_not_isDirectory (by simpa using hdirectory), List.foldl_nil]

theorem ofDirectory_eq (tree : FileTree) (directory : String) :
    (ofDirectory tree directory).rules =
        accepted (outcomes tree [] (tree.documents directory)) ∧
      (ofDirectory tree directory).errors =
        rejected (outcomes tree [] (tree.documents directory)) := by
  rw [ofDirectory, loadDirectory_eq_foldl]
  exact foldl_loadDocument tree Reachable.empty fun path hpath =>
    (FileTree.mem_documents_iff.mp hpath).1

/-- **A directory load accounts for every document once.** -/
theorem accounts_countDirectory (tree : FileTree) (directory : String) :
    Accounts tree directory (countDirectory tree empty directory) := by
  have hloaded : (countDirectory tree empty directory).1 = ofDirectory tree directory :=
    fst_countDirectory tree empty directory
  have hnodup := tree.nodup_documents directory
  obtain ⟨hrules, herrors⟩ := ofDirectory_eq tree directory
  refine ⟨fun path => FileTree.mem_documents_iff, ?_, ?_, ?_, ?_, ?_, ?_⟩
  · rw [FileTree.documents, List.filter_map]
    exact ⟨_, rfl, (tree.pairwise_waysBelow directory).filter _⟩
  · intro path hpath
    have hkind : (fun rule : Rule => rule.source == some path) =
        fun rule : Rule => rule.source.any (· == path) := by
      funext rule
      cases rule.source <;> simp
    rw [hloaded, hrules, herrors, hkind, countP_outcomes]
    exact List.count_eq_one_of_mem hnodup hpath
  · rw [hloaded, hrules]
    exact sublist_sources tree [] _
  · rw [hloaded, herrors]
    exact sublist_errors tree [] _
  · have hcounted := counted_countDirectory tree empty directory
    rw [Counted] at hcounted
    simpa [empty] using hcounted.symm
  · intro before path after hsplit rule
    rw [hloaded, hrules, hsplit]
    exact mem_accepted_iff (hsplit ▸ hnodup) rule

/-! ### Failures are isolated -/

/-- Registries that differ at most in the messages of the errors for the file at a place. -/
structure AgreesBesides (tree : FileTree) (place : List String) (a b : Registry) : Prop where
  /-- They have the same rules. -/
  rules : b.rules = a.rules
  /-- Their errors name the same documents, and those for other files are the same. -/
  errors : List.Forall₂
    (fun old new => new.path = old.path ∧ (tree.place old.path ≠ .ok place → new = old))
    a.errors b.errors

/-- Documents that fail in both of two trees take no id in either, so the others come to the same. -/
theorem outcomes_congr {a b : FileTree} {spot : String → Prop} {paths : List String}
    (h : ∀ path ∈ paths, readRule b path = readRule a path ∨
      spot path ∧ ∃ first second, readRule a path = .error first ∧ readRule b path = .error second)
    (taken : List String) :
    accepted (outcomes b taken paths) = accepted (outcomes a taken paths) ∧
      List.Forall₂ (fun old new => new.path = old.path ∧ (¬ spot old.path → new = old))
        (rejected (outcomes a taken paths)) (rejected (outcomes b taken paths)) := by
  induction paths generalizing taken with
  | nil => exact ⟨rfl, .nil⟩
  | cons path paths ih =>
      obtain ⟨hpath, hpaths⟩ := List.forall_mem_cons.mp h
      rw [outcomes, outcomes]
      rcases hpath with hsame | ⟨hspot, first, second, hfirst, hsecond⟩
      · have houtcome : outcome b taken path = outcome a taken path := by
          rw [outcome, outcome, hsame]
        rw [houtcome]
        cases outcome a taken path with
        | error e =>
            obtain ⟨haccepted, hrejected⟩ := ih hpaths (takenAfter taken (.error e))
            exact ⟨haccepted, .cons ⟨rfl, fun _ => rfl⟩ hrejected⟩
        | ok rule =>
            obtain ⟨haccepted, hrejected⟩ := ih hpaths (takenAfter taken (.ok rule))
            exact ⟨congrArg (rule :: ·) haccepted, hrejected⟩
      · obtain ⟨haccepted, hrejected⟩ := ih hpaths taken
        have ha : outcome a taken path = .error ⟨path, first⟩ := by rw [outcome, hfirst]
        have hb : outcome b taken path = .error ⟨path, second⟩ := by rw [outcome, hsecond]
        rw [ha, hb]
        exact ⟨haccepted, .cons ⟨rfl, fun hother => absurd hspot hother⟩ hrejected⟩

/-- The path of a file with a broken content gives no rule. -/
theorem readRule_of_isBroken {tree : FileTree} {place : List String} {content : FileTree.Content}
    (h : tree.at? place = some (.file content)) (hbroken : content.isBroken = true) {path : String}
    (hpath : tree.place path = .ok place) : ∃ message, readRule tree path = .error message := by
  rw [readRule, FileTree.readText_of_place_eq h hpath]
  split
  · exact ⟨_, rfl⟩
  · rename_i value hread
    -- What was read is the text of the content, and it is not accepted.
    split at hread
    · cases hread
    · cases content with
      | binary => cases hread
      | text other =>
          cases hread
          rw [FileTree.Content.isBroken] at hbroken
          cases hparse : Document.parse value.toList with
          | error e => exact ⟨_, rfl⟩
          | ok rule =>
              rw [hparse] at hbroken
              cases hbroken

/-- **Failures are isolated**: how a document fails is of no matter to the others. -/
theorem agreesBesides_ofDirectory {tree : FileTree} {place : List String}
    {old new : FileTree.Content} (h : tree.at? place = some (.file old))
    (hold : old.isBroken = true) (hnew : new.isBroken = true) (directory : String) :
    AgreesBesides tree place (ofDirectory tree directory)
      (ofDirectory (tree.put place (.file new)) directory) := by
  have hself : (tree.put place (.file new)).at? place = some (.file new) :=
    FileTree.at?_put_file_self h
  have hread : ∀ path ∈ tree.documents directory,
      readRule (tree.put place (.file new)) path = readRule tree path ∨
        tree.place path = .ok place ∧ ∃ first second,
          readRule tree path = .error first ∧
            readRule (tree.put place (.file new)) path = .error second := by
    intro path _
    by_cases hpath : tree.place path = .ok place
    · obtain ⟨first, hfirst⟩ := readRule_of_isBroken h hold hpath
      obtain ⟨second, hsecond⟩ :=
        readRule_of_isBroken hself hnew ((FileTree.place_put_file h path).trans hpath)
      exact .inr ⟨hpath, first, second, hfirst, hsecond⟩
    · left
      rw [readRule, readRule, FileTree.readText_put_file_of_ne h hpath]
  obtain ⟨haccepted, hrejected⟩ := outcomes_congr hread []
  obtain ⟨hrules, herrors⟩ := ofDirectory_eq tree directory
  obtain ⟨hrules', herrors'⟩ := ofDirectory_eq (tree.put place (.file new)) directory
  rw [FileTree.documents_put_file h] at hrules' herrors'
  constructor
  · rw [hrules, hrules', haccepted]
  · rw [herrors, herrors']
    exact hrejected

/-- **A directory load accounts for every document once, and failures are isolated.** -/
theorem directory_accounted (tree : FileTree) (directory : String) :
    Accounts tree directory (countDirectory tree empty directory) ∧
      (countDirectory tree empty directory).1 = ofDirectory tree directory ∧
      ∀ place old new, tree.at? place = some (.file old) →
        old.isBroken = true → new.isBroken = true →
          AgreesBesides tree place (ofDirectory tree directory)
            (ofDirectory (tree.put place (.file new)) directory) :=
  ⟨accounts_countDirectory tree directory, fst_countDirectory tree empty directory,
    fun _ _ _ h hold hnew => agreesBesides_ofDirectory h hold hnew directory⟩

/-- A directory with a rule, a file that is no text, the same rule once more, and a document without
metadata. -/
def shelf : FileTree :=
  let naming := "## Metadata\n- **ID**: core-naming\n- **Category**: systems\n- **Severity**: INFO\n"
  [("rules/a.md", .text naming), ("rules/b.md", .binary), ("rules/more/c.md", .text naming),
    ("rules/more/d.md", .text "# Naming\n"), ("rules/notes.txt", .text naming)].foldl
    (fun tree file => tree.write file.1 (.file file.2)) (.empty "/project")

/-- One of its documents gives the rule, and the others are named by errors, however the second one
fails. -/
theorem shelf_accounted :
    Accounts shelf "rules" (countDirectory shelf empty "rules") ∧
      (ofDirectory shelf "rules").ids = ["core-naming"] ∧
      (ofDirectory shelf "rules").errors.map (·.path) =
        ["rules/b.md", "rules/more/c.md", "rules/more/d.md"] ∧
      AgreesBesides shelf ["rules", "b.md"] (ofDirectory shelf "rules")
        (ofDirectory (shelf.put ["rules", "b.md"] (.file (.text "# Nothing"))) "rules") := by
  obtain ⟨haccounts, -, hisolated⟩ := directory_accounted shelf "rules"
  refine ⟨haccounts, by decide +kernel, by decide +kernel, ?_⟩
  exact hisolated ["rules", "b.md"] .binary (.text "# Nothing") (by decide +kernel) rfl
    (by decide +kernel)

end Registry

end Rulebook
