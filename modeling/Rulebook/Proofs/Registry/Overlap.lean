/-
**Patterns whose paths overlap.**

A pattern may fit a directory together with files and directories in it.  The documents of the
directory are loaded where the directory stands, and those that fit on their own once more where
they stand; nothing keeps track of what was loaded before.  What was the source of a rule then comes
back as an error, as its id is taken by itself, and what failed fails again.

So every document is handled once exactly if no document is reached twice.  Documents may be told
apart by their paths, or by the files that the paths lead to; it is the same argument.

Main definitions:

* `Rulebook.Registry.reach`, `Rulebook.Registry.reached` — the documents that a path leads to, and
  those of several paths, each as often as it is reached;
* `Rulebook.Registry.HandlesOnce` — no document is handled twice;
* `Rulebook.FileTree.fileOf` — the file that a path leads to.

Main results:

* `Rulebook.Registry.handlesOnce_iff` — documents that are loaded one after the other are handled
  once exactly if they are different;
* `Rulebook.Registry.pattern_handlesOnce_iff` — **a pattern handles every document once exactly if
  its paths lead to different documents**;
* `Rulebook.Registry.not_always_handlesOnce` — some patterns do not.
-/

import Rulebook.Proofs.Registry.Directory

set_option autoImplicit false

namespace Rulebook

/-- The file that a path leads to, by its place; a path that leads nowhere stands for itself. -/
def FileTree.fileOf (tree : FileTree) (path : String) : String ⊕ List String :=
  match tree.place path with
  | .ok place => .inr place
  | .error _ => .inl path

namespace Registry

/-! ### What paths lead to -/

/-- The documents that a path leads to: those below a directory, or the document itself. -/
def reach (tree : FileTree) (path : String) : List String :=
  if tree.isDirectory path then tree.documents path else [path].filter Path.isDocument

/-- The documents that several paths lead to, each as often as it is reached. -/
def reached (tree : FileTree) (paths : List String) : List String := paths.flatMap (reach tree)

theorem isDocument_of_mem_reached {tree : FileTree} {paths : List String} {path : String}
    (h : path ∈ reached tree paths) : Path.isDocument path = true := by
  obtain ⟨matched, -, hpath⟩ := List.mem_flatMap.mp h
  rw [reach] at hpath
  split at hpath
  · exact (FileTree.mem_documents_iff.mp hpath).1
  · exact (List.mem_filter.mp hpath).2

theorem loadPath_eq_foldl (tree : FileTree) (registry : Registry) (path : String) :
    loadPath tree registry path = (reach tree path).foldl (loadDocument tree) registry := by
  rw [loadPath, reach]
  split
  · exact loadDirectory_eq_foldl tree registry path
  · exact foldl_loadDocument_filter tree registry [path]

/-- Loading paths takes the documents that they lead to, one after the other. -/
theorem foldl_loadPath (tree : FileTree) (paths : List String) (registry : Registry) :
    paths.foldl (loadPath tree) registry =
      (reached tree paths).foldl (loadDocument tree) registry := by
  induction paths generalizing registry with
  | nil => rfl
  | cons path paths ih =>
      rw [List.foldl_cons, ih, loadPath_eq_foldl, reached, reached, List.flatMap_cons,
        List.foldl_append]

/-! ### Handling documents once -/

/-- No document is handled twice; documents are told apart by `who`. -/
structure HandlesOnce {α : Type} (who : String → α) (registry : Registry) : Prop where
  /-- No error names a document that is the source of a rule.  In particular no document is said to
  repeat the id of its own rule. -/
  apart : ∀ rule ∈ registry.rules, ∀ source, rule.source = some source →
    ∀ e ∈ registry.errors, who e.path ≠ who source
  /-- No two errors name the same document. -/
  once : (registry.errors.map fun e => who e.path).Nodup

section

variable {α : Type} [DecidableEq α] {who : String → α} {tree : FileTree} {paths : List String}

/-- Of each document there is one rule at most: another one with its id would be refused. -/
theorem countP_accepted_le_one
    (hwho : ∀ p q r s, who p = who q → readRule tree p = .ok r → readRule tree q = .ok s →
      r.id = s.id)
    (hids : ((accepted (outcomes tree [] paths)).map (·.id)).Nodup) (key : α) :
    (accepted (outcomes tree [] paths)).countP (·.source.any fun path => who path == key) ≤ 1 := by
  rw [List.countP_eq_length_filter]
  generalize hsame : (accepted (outcomes tree [] paths)).filter
    (·.source.any fun path => who path == key) = same
  have hnodup : (same.map (·.id)).Nodup := by
    rw [← hsame]
    exact hids.sublist (List.filter_sublist.map _)
  have hread : ∀ r ∈ same, ∃ p, who p = key ∧ readRule tree p = .ok r := by
    intro r hr
    rw [← hsame] at hr
    obtain ⟨hmem, hkey⟩ := List.mem_filter.mp hr
    obtain ⟨p, -, hp, hsource⟩ := exists_of_mem_accepted hmem
    rw [hsource, Option.any_some, beq_iff_eq] at hkey
    exact ⟨p, hkey, hp⟩
  rcases same with _ | ⟨r, _ | ⟨s, rest⟩⟩
  · exact Nat.zero_le 1
  · exact Nat.le_refl 1
  · -- Two of them would have the id of the one document that they come from.
    obtain ⟨p, hpkey, hp⟩ := hread r List.mem_cons_self
    obtain ⟨q, hqkey, hq⟩ := hread s (List.mem_cons_of_mem _ List.mem_cons_self)
    have hid : r.id = s.id := hwho p q r s (hpkey.trans hqkey.symm) hp hq
    rw [List.map_cons, List.map_cons, hid] at hnodup
    exact absurd List.mem_cons_self (List.nodup_cons.mp hnodup).1

/-- **Documents that are loaded one after the other are handled once exactly if they are
different.** -/
theorem handlesOnce_iff
    (hwho : ∀ p q r s, who p = who q → readRule tree p = .ok r → readRule tree q = .ok s →
      r.id = s.id)
    (hpaths : ∀ path ∈ paths, Path.isDocument path = true) :
    HandlesOnce who (paths.foldl (loadDocument tree) empty) ↔ (paths.map who).Nodup := by
  have hreachable : Reachable (paths.foldl (loadDocument tree) empty) :=
    Reachable.empty.foldl (fun _ path h => h.loadDocument tree path) paths
  have hids := hreachable.nodup_ids
  obtain ⟨hrules, herrors⟩ := foldl_loadDocument tree Reachable.empty hpaths
  change _ = [] ++ accepted (outcomes tree [] paths) at hrules
  change _ = [] ++ rejected (outcomes tree [] paths) at herrors
  rw [List.nil_append] at hrules herrors
  rw [ids, hrules] at hids
  -- The rules and the errors of a document make up the times that it was taken.
  have hcount : ∀ key, (paths.map who).count key =
      (accepted (outcomes tree [] paths)).countP (·.source.any fun path => who path == key) +
        ((rejected (outcomes tree [] paths)).map fun e => who e.path).count key := by
    intro key
    simp only [List.count, List.countP_map]
    exact (countP_outcomes tree [] paths fun path => who path == key).symm
  constructor
  · intro h
    refine List.nodup_iff_count_le_one.mpr fun key => ?_
    have hrule := countP_accepted_le_one hwho hids key
    have herror := List.nodup_iff_count_le_one.mp h.once key
    rw [herrors] at herror
    have hnotboth : (accepted (outcomes tree [] paths)).countP
          (·.source.any fun path => who path == key) = 0 ∨
        ((rejected (outcomes tree [] paths)).map fun e => who e.path).count key = 0 := by
      by_contra hboth
      obtain ⟨hsome, hsome'⟩ := not_or.mp hboth
      obtain ⟨rule, hrule, hkey⟩ := List.countP_pos_iff.mp (Nat.pos_of_ne_zero hsome)
      obtain ⟨source, -, -, hsource⟩ := exists_of_mem_accepted hrule
      rw [hsource, Option.any_some, beq_iff_eq] at hkey
      obtain ⟨e, he, hekey⟩ := List.mem_map.mp (List.count_pos_iff.mp (Nat.pos_of_ne_zero hsome'))
      rw [← hrules] at hrule
      rw [← herrors] at he
      exact h.apart rule hrule source hsource e he (hekey.trans hkey.symm)
    rw [hcount]
    omega
  · intro h
    have hone : ∀ key, (paths.map who).count key ≤ 1 := List.nodup_iff_count_le_one.mp h
    refine ⟨?_, ?_⟩
    · rw [hrules, herrors]
      intro rule hrule source hsource e he hsame
      have hrulepos : 0 < (accepted (outcomes tree [] paths)).countP
          (·.source.any fun path => who path == who source) :=
        List.countP_pos_iff.mpr ⟨rule, hrule, by rw [hsource, Option.any_some, beq_self_eq_true]⟩
      have herrorpos : 0 < ((rejected (outcomes tree [] paths)).map fun e => who e.path).count
          (who source) := List.count_pos_iff.mpr (List.mem_map.mpr ⟨e, he, hsame⟩)
      have hle := hone (who source)
      rw [hcount] at hle
      omega
    · rw [herrors]
      refine List.nodup_iff_count_le_one.mpr fun key => ?_
      have hle := hone key
      rw [hcount] at hle
      omega

end

/-! ### The same file under several paths -/

/-- What is read stands in a file. -/
theorem exists_file_of_readText {tree : FileTree} {path text : String}
    (h : tree.readText path = .ok text) :
    ∃ place content, tree.place path = .ok place ∧ tree.at? place = some (.file content) := by
  obtain ⟨node, hfind, hnode⟩ := exists_of_bind_eq_ok h
  obtain ⟨place, hplace, hnode'⟩ := exists_of_bind_eq_ok hfind
  split at hnode'
  · rename_i content hat
    exact ⟨place, content, hplace, hat⟩
  · cases hnode'
    cases hnode
  · cases hnode'

/-- Paths to the same file read the same. -/
theorem readText_eq_of_fileOf_eq {tree : FileTree} {p q text other : String}
    (h : tree.fileOf p = tree.fileOf q) (hp : tree.readText p = .ok text)
    (hq : tree.readText q = .ok other) : text = other := by
  obtain ⟨place, content, hplace, hat⟩ := exists_file_of_readText hp
  obtain ⟨place', -, hplace', -⟩ := exists_file_of_readText hq
  rw [FileTree.fileOf, FileTree.fileOf, hplace, hplace', Sum.inr.injEq] at h
  subst h
  -- Neither path has a slash behind it, as it would not lead to the file then.
  rw [FileTree.readText_of_place_eq hat hplace] at hp
  rw [FileTree.readText_of_place_eq hat hplace'] at hq
  split at hp
  · cases hp
  · split at hq
    · cases hq
    · rw [hp] at hq
      cases hq
      rfl

/-- Paths to the same file give rules with the same id. -/
theorem id_eq_of_fileOf_eq {tree : FileTree} {p q : String} {r s : Rule}
    (h : tree.fileOf p = tree.fileOf q) (hp : readRule tree p = .ok r)
    (hq : readRule tree q = .ok s) : r.id = s.id := by
  rw [readRule] at hp hq
  split at hp
  · cases hp
  · rename_i text hread
    split at hq
    · cases hq
    · rename_i other hread'
      rw [readText_eq_of_fileOf_eq h hread hread'] at hp
      split at hp
      · cases hp
      · rename_i rule hparse
        rw [hparse] at hq
        cases hp
        cases hq
        rfl

/-! ### Patterns -/

theorem nodup_reach (tree : FileTree) (path : String) : (reach tree path).Nodup := by
  rw [reach]
  split
  · exact tree.nodup_documents path
  · exact (List.nodup_singleton path).filter _

/-- **A pattern handles every document once exactly if its paths lead to different documents**, be
they told apart by their paths or by the files. -/
theorem pattern_handlesOnce_iff (tree : FileTree) {pattern : String} {p : Pattern}
    (hp : Pattern.parse? pattern = some p) :
    ∃ registry, loadPattern? tree empty pattern = some registry ∧
      (HandlesOnce id registry ↔
        (p.paths tree).Pairwise fun a b => (reach tree a).Disjoint (reach tree b)) ∧
      (HandlesOnce tree.fileOf registry ↔
        ((reached tree (p.paths tree)).map tree.fileOf).Nodup) := by
  refine ⟨(reached tree (p.paths tree)).foldl (loadDocument tree) empty, ?_, ?_, ?_⟩
  · rw [loadPattern?, hp, Option.map_some, foldl_loadPath]
  · have hsame : ∀ (p q : String) (r s : Rule), id p = id q → readRule tree p = .ok r →
        readRule tree q = .ok s → r.id = s.id := by
      rintro p q r s hpath hp hq
      rw [id_eq, id_eq] at hpath
      rw [hpath, hq] at hp
      cases hp
      rfl
    rw [handlesOnce_iff hsame fun _ => isDocument_of_mem_reached, List.map_id, reached,
      List.nodup_flatMap]
    exact and_iff_right fun path _ => nodup_reach tree path
  · exact handlesOnce_iff (fun _ _ _ _ => id_eq_of_fileOf_eq) fun _ => isDocument_of_mem_reached

/-- A directory with a document, in a directory. -/
def nested : FileTree :=
  (FileTree.empty "/project").write "rules/sub/a.md" (.file (.text
    "## Metadata\n- **ID**: core-naming\n- **Category**: systems\n- **Severity**: INFO\n"))

/-- With one asterisk only the directory of the document fits. -/
theorem nested_handlesOnce :
    Pattern.parse? "rules/*" = some ⟨".", [.exactly "rules", .like [.anyText]], false⟩ ∧
      ∃ registry, loadPattern? nested empty "rules/*" = some registry ∧
        HandlesOnce id registry ∧ HandlesOnce nested.fileOf registry := by
  have hp : Pattern.parse? "rules/*" = some ⟨".", [.exactly "rules", .like [.anyText]], false⟩ := by
    simp [Pattern.parse?, Pattern.pieces, Text.segments, Path.isAbsolute, Path.endsWithSlash,
      Pattern.part?, Pattern.tokens?, Pattern.collapse, Pattern.Token.isWild]
  obtain ⟨registry, hload, hpaths, hfiles⟩ := pattern_handlesOnce_iff nested hp
  have hreached : (reached nested (Pattern.paths nested
      ⟨".", [.exactly "rules", .like [.anyText]], false⟩)).Nodup := by decide +kernel
  exact ⟨hp, registry, hload, hpaths.mpr (List.nodup_flatMap.mp hreached).2,
    hfiles.mpr (by decide +kernel)⟩

/-- It is not so in general: with two more asterisks the directory of the document fits, and so does
the document, which is then said to repeat the id of its own rule. -/
theorem not_always_handlesOnce :
    (∃ registry, loadPattern? nested empty "rules/**/*" = some registry ∧
      ∃ rule ∈ registry.rules, rule.source = some "rules/sub/a.md" ∧
        ∃ e ∈ registry.errors, e.path = "rules/sub/a.md" ∧
          e.message = (RuleError.duplicateId rule.id).message) ∧
    ¬ ∀ (tree : FileTree) (pattern : String) (registry : Registry),
      loadPattern? tree empty pattern = some registry → HandlesOnce id registry := by
  have hp : Pattern.parse? "rules/**/*" =
      some ⟨".", [.exactly "rules", .anyDirectories, .like [.anyText]], false⟩ := by
    simp [Pattern.parse?, Pattern.pieces, Text.segments, Path.isAbsolute, Path.endsWithSlash,
      Pattern.part?, Pattern.tokens?, Pattern.collapse, Pattern.Token.isWild]
  have hpaths : Pattern.paths nested
      ⟨".", [.exactly "rules", .anyDirectories, .like [.anyText]], false⟩ =
        ["rules/sub", "rules/sub/a.md"] := by decide +kernel
  have hload : loadPattern? nested empty "rules/**/*" =
      some (["rules/sub", "rules/sub/a.md"].foldl (loadPath nested) empty) := by
    rw [loadPattern?, hp, Option.map_some, hpaths]
  have hrepeat : ∃ rule ∈ (["rules/sub", "rules/sub/a.md"].foldl (loadPath nested) empty).rules,
      rule.source = some "rules/sub/a.md" ∧
        ∃ e ∈ (["rules/sub", "rules/sub/a.md"].foldl (loadPath nested) empty).errors,
          e.path = "rules/sub/a.md" ∧ e.message = (RuleError.duplicateId rule.id).message := by
    decide +kernel
  refine ⟨⟨_, hload, hrepeat⟩, fun h => ?_⟩
  obtain ⟨rule, hrule, hsource, e, he, hpath, -⟩ := hrepeat
  exact (h nested "rules/**/*" _ hload).apart rule hrule "rules/sub/a.md" hsource e he hpath

end Registry

end Rulebook
