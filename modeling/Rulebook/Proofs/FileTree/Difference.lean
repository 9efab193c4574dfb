/-
**Trees that differ in some files.**

Following a path looks at a few places only: those that its parts lead to, one after the other.  So
what a path leads to is the same in two trees that differ in some files and in the directories above
them, as long as the path does not lead by any of these places.  Writing a file under a path gives a
tree that differs from the old one in this file only.

Main definitions:

* `Rulebook.FileTree.OnWay` — the places on the way to what a path names;
* `Rulebook.FileTree.SameBesides` — trees that differ in some files only;
* `Rulebook.FileTree.passed`, `Rulebook.FileTree.Avoids` — the places that following a path looks
  at, and paths that keep clear of some files.

Main results:

* `Rulebook.FileTree.SameBesides.readText_eq` — **a path that keeps clear of the differences reads
  the same text in both trees**;
* `Rulebook.FileTree.sameBesides_write` — writing a file changes this file only.
-/

import Rulebook.FileTree.Basic

set_option autoImplicit false

namespace Rulebook.FileTree

/-! ### Differences -/

/-- A place on the way to what a path names: the place itself, or one of the directories above. -/
def OnWay (tree : FileTree) (path : String) (place : List String) : Prop :=
  place ≠ [] ∧ place <+: tree.partsFrom path

instance (tree : FileTree) (path : String) (place : List String) :
    Decidable (tree.OnWay path place) :=
  inferInstanceAs (Decidable (_ ∧ _))

/-- Two trees that differ in the files of some paths only, and in the directories above them. -/
structure SameBesides (paths : List String) (a b : FileTree) : Prop where
  /-- They have the same working directory. -/
  root_eq : b.root = a.root
  /-- Everywhere else there is the same in both. -/
  at?_eq : ∀ place, (∀ path ∈ paths, ¬ a.OnWay path place) → b.at? place = a.at? place

theorem SameBesides.partsFrom_eq {paths : List String} {a b : FileTree}
    (h : SameBesides paths a b) (path : String) : b.partsFrom path = a.partsFrom path := by
  rw [partsFrom, partsFrom, h.root_eq]

/-! ### Following a path -/

/-- The places that are looked at when some parts are followed from a place. -/
def passed (tree : FileTree) (place : List String) : List String → List (List String)
  | [] => [place]
  | part :: rest =>
    place :: match tree.step place part with
      | .ok next => passed tree next rest
      | .error _ => []

/-- A path that keeps clear of the files of some paths. -/
def Avoids (tree : FileTree) (paths : List String) (path : String) : Prop :=
  ∀ place ∈ tree.passed [] (tree.partsFrom path), ∀ other ∈ paths, ¬ tree.OnWay other place

instance (tree : FileTree) (paths : List String) (path : String) :
    Decidable (tree.Avoids paths path) :=
  inferInstanceAs (Decidable (∀ _ ∈ _, ∀ _ ∈ _, ¬ _))

theorem step_congr {a b : FileTree} {place : List String} (h : b.at? place = a.at? place)
    (part : String) : b.step place part = a.step place part := by
  rw [step, step, h]

/-- Parts lead to the same place in two trees that agree about what is passed, and there is the same
at this place. -/
theorem foldlM_step_congr {a b : FileTree} {parts : List String} {place : List String}
    (h : ∀ other ∈ a.passed place parts, b.at? other = a.at? other) :
    parts.foldlM b.step place = parts.foldlM a.step place ∧
      ∀ stop, parts.foldlM a.step place = .ok stop → b.at? stop = a.at? stop := by
  induction parts generalizing place with
  | nil =>
      refine ⟨rfl, fun stop hstop => ?_⟩
      cases hstop
      exact h place (by simp [passed])
  | cons part rest ih =>
      -- What comes after the first part is passed only if this part leads on, in both trees alike.
      rw [passed] at h
      obtain ⟨hhere, hrest⟩ := List.forall_mem_cons.mp h
      rw [List.foldlM_cons, List.foldlM_cons, step_congr hhere]
      cases hstep : a.step place part with
      | error cause => exact ⟨rfl, fun stop hstop => by cases hstop⟩
      | ok next =>
          rw [hstep] at hrest
          exact ih hrest

namespace SameBesides

variable {paths : List String} {a b : FileTree} {path : String}

theorem place_eq (h : SameBesides paths a b) (hpath : a.Avoids paths path) :
    b.place path = a.place path ∧ ∀ stop, a.place path = .ok stop → b.at? stop = a.at? stop := by
  have hpassed : ∀ place ∈ a.passed [] (a.partsFrom path), b.at? place = a.at? place :=
    fun place hplace => h.at?_eq place (hpath place hplace)
  obtain ⟨hfold, hstop⟩ := foldlM_step_congr hpassed
  rw [place, place, h.partsFrom_eq, hfold]
  refine ⟨rfl, fun stop hplace => ?_⟩
  split at hplace
  · cases hplace
  · exact hstop stop hplace

/-- **A path that keeps clear of the differences leads to the same in both trees.** -/
theorem find_eq (h : SameBesides paths a b) (hpath : a.Avoids paths path) :
    b.find path = a.find path := by
  obtain ⟨hplace, hstop⟩ := h.place_eq hpath
  rw [find, find, hplace]
  cases hfound : a.place path with
  | error cause => rfl
  | ok stop => simp only [bind, Except.bind, hstop stop hfound]

/-- **It reads the same text in both.** -/
theorem readText_eq (h : SameBesides paths a b) (hpath : a.Avoids paths path) :
    b.readText path = a.readText path := by
  rw [readText, readText, h.find_eq hpath]

end SameBesides

/-! ### Writing a file -/

theorem at?_put_of_ne (tree : FileTree) {place other : List String} (node : Node)
    (h : other ≠ place) : (tree.put place node).at? other = tree.at? other := by
  rw [put]
  split
  · cases other with
    | nil => rfl
    | cons name rest => exact (SortedMap.get?_insert _ _ _ _).trans (if_neg h)
  · rfl

theorem at?_ensureDirectory_of_ne (tree : FileTree) {place other : List String}
    (h : other ≠ place) : (tree.ensureDirectory place).at? other = tree.at? other := by
  rw [ensureDirectory]
  split
  · rfl
  · exact tree.at?_put_of_ne .directory h

theorem at?_ensureDirectories_of_not_mem (tree : FileTree) {places : List (List String)}
    {other : List String} (h : other ∉ places) :
    (places.foldl ensureDirectory tree).at? other = tree.at? other := by
  induction places generalizing tree with
  | nil => rfl
  | cons place places ih =>
      rw [List.mem_cons, not_or] at h
      exact (ih _ h.2).trans (tree.at?_ensureDirectory_of_ne h.1)

theorem root_ensureDirectories (tree : FileTree) (places : List (List String)) :
    (places.foldl ensureDirectory tree).root = tree.root := by
  induction places generalizing tree with
  | nil => rfl
  | cons place places ih =>
      refine (ih _).trans ?_
      rw [ensureDirectory]
      split
      · rfl
      · exact tree.root_put place .directory

/-- **Writing a file changes this file only**, and the directories above it. -/
theorem sameBesides_write {paths : List String} (tree : FileTree) {path : String}
    (h : path ∈ paths) (node : Node) : SameBesides paths tree (tree.write path node) where
  root_eq :=
    (root_put _ _ node).trans (tree.root_ensureDirectories (ancestors (tree.partsFrom path)))
  at?_eq := by
    intro place hplace
    cases place with
    | nil => rfl
    | cons name rest =>
        have hnot : ¬ (name :: rest) <+: tree.partsFrom path :=
          fun hprefix => hplace path h ⟨List.cons_ne_nil _ _, hprefix⟩
        have hne : name :: rest ≠ tree.partsFrom path := by
          intro heq
          exact hnot (heq ▸ List.prefix_refl _)
        have habove : name :: rest ∉ ancestors (tree.partsFrom path) := by
          intro hmem
          obtain ⟨n, -, heq⟩ := List.mem_map.mp hmem
          exact hnot (heq ▸ List.take_prefix _ _)
        rw [write, at?_put_of_ne _ node hne, at?_ensureDirectories_of_not_mem _ habove]

end Rulebook.FileTree
