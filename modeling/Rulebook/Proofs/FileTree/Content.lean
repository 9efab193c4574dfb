/-
**Changing the content of a file.**

A file that gets another content stays a file.  Where paths lead to, which of them lead to
directories, and what there is below a directory, does not depend on contents; so nothing of this
changes, and a path reads what it read before unless it leads to the file itself.

Main definitions:

* `Rulebook.FileTree.Content.read` — the text of a content.

Main results:

* `Rulebook.FileTree.at?_write_self` — what is written is there;
* `Rulebook.FileTree.place_put_file`, `Rulebook.FileTree.isDirectory_put_file`,
  `Rulebook.FileTree.documents_put_file` — where paths lead to, directories and documents stay;
* `Rulebook.FileTree.readText_put_file_of_ne` — **other files read the same**;
* `Rulebook.FileTree.readText_of_place_eq` — the file itself reads its content.
-/

import Rulebook.Proofs.FileTree.Difference
import Rulebook.Proofs.FileTree.Walk

set_option autoImplicit false

namespace Rulebook.FileTree

/-- The text of a content. -/
def Content.read : Content → Except FileError String
  | .text value => .ok value
  | .binary => .error .notText

variable {tree : FileTree} {place : List String} {old new : Content}

theorem ne_nil_of_at?_eq_file (h : tree.at? place = some (.file old)) : place ≠ [] := by
  rintro rfl
  cases h

theorem partsFrom_put (tree : FileTree) (place : List String) (node : Node) (path : String) :
    (tree.put place node).partsFrom path = tree.partsFrom path := by
  rw [partsFrom, partsFrom, root_put]

theorem at?_put_self (tree : FileTree) {place : List String} (h : Path.IsPlace place)
    (hne : place ≠ []) (node : Node) : (tree.put place node).at? place = some node := by
  rw [at?_of_ne_nil _ hne, put, dif_pos h]
  exact (SortedMap.get?_insert _ _ _ _).trans (if_pos rfl)

/-- **What is written is there.** -/
theorem at?_write_self (tree : FileTree) {path : String} (h : tree.partsFrom path ≠ [])
    (node : Node) : (tree.write path node).at? (tree.partsFrom path) = some node :=
  at?_put_self _ (tree.isPlace_partsFrom path) h node

/-- The file has the new content. -/
theorem at?_put_file_self (h : tree.at? place = some (.file old)) :
    (tree.put place (.file new)).at? place = some (.file new) :=
  at?_put_self tree (isPlace_of_at? h) (ne_nil_of_at?_eq_file h) _

/-- What is somewhere in the changed tree is what was there, but for the content of the file. -/
theorem at?_put_file (h : tree.at? place = some (.file old)) (other : List String) :
    (tree.put place (.file new)).at? other =
      if other = place then some (.file new) else tree.at? other := by
  split
  · rename_i heq
    rw [heq, at?_put_file_self h]
  · rename_i hne
    exact at?_put_of_ne tree _ hne

/-! ### Following paths -/

/-- A file leads no further, whatever it holds. -/
theorem step_put_file (h : tree.at? place = some (.file old)) (other : List String)
    (part : String) : (tree.put place (.file new)).step other part = tree.step other part := by
  by_cases heq : other = place
  · rw [step, step, at?_put_file h, if_pos heq, heq, h]
  · refine step_congr ?_ part
    rw [at?_put_file h, if_neg heq]

theorem place_put_file (h : tree.at? place = some (.file old)) (path : String) :
    (tree.put place (.file new)).place path = tree.place path := by
  have hstep : (tree.put place (.file new)).step = tree.step :=
    funext fun other => funext fun part => step_put_file h other part
  rw [FileTree.place, FileTree.place, hstep, partsFrom_put]

/-- A path that leads to another place leads to the same as before. -/
theorem find_put_file_of_ne (h : tree.at? place = some (.file old)) {path : String}
    (hpath : tree.place path ≠ .ok place) :
    (tree.put place (.file new)).find path = tree.find path := by
  rw [find, find, place_put_file h]
  cases hplace : tree.place path with
  | error cause => rfl
  | ok stop =>
      have hne : stop ≠ place := fun heq => hpath (by rw [hplace, heq])
      simp only [bind, Except.bind, at?_put_file h, if_neg hne]

/-- A path that leads to a file leads to nothing else, and not at all with a slash behind it. -/
theorem find_of_place_eq (h : tree.at? place = some (.file old)) {path : String}
    (hpath : tree.place path = .ok place) :
    tree.find path =
      if Path.endsWithSlash path then .error .notADirectory else .ok (.file old) := by
  rw [find, hpath]
  simp only [bind, Except.bind, h]
  split <;> rfl

/-- **Other files read the same.** -/
theorem readText_put_file_of_ne (h : tree.at? place = some (.file old)) {path : String}
    (hpath : tree.place path ≠ .ok place) :
    (tree.put place (.file new)).readText path = tree.readText path := by
  rw [readText, readText, find_put_file_of_ne h hpath]

/-- The file itself reads its content. -/
theorem readText_of_place_eq (h : tree.at? place = some (.file old)) {path : String}
    (hpath : tree.place path = .ok place) :
    tree.readText path = if Path.endsWithSlash path then .error .notADirectory else old.read := by
  rw [readText, find_of_place_eq h hpath]
  split
  · rfl
  · cases old <;> rfl

/-! ### Directories -/

theorem isDirectory_of_place_eq (h : tree.at? place = some (.file old)) {path : String}
    (hpath : tree.place path = .ok place) : tree.isDirectory path = false := by
  rw [isDirectory, find_of_place_eq h hpath]
  cases Path.endsWithSlash path <;> rfl

theorem isDirectory_put_file (h : tree.at? place = some (.file old)) (path : String) :
    (tree.put place (.file new)).isDirectory path = tree.isDirectory path := by
  by_cases hpath : tree.place path = .ok place
  · rw [isDirectory_of_place_eq h hpath,
      isDirectory_of_place_eq (at?_put_file_self h) ((place_put_file h path).trans hpath)]
  · rw [isDirectory, isDirectory, find_put_file_of_ne h hpath]

theorem hasFile_put_file (h : tree.at? place = some (.file old)) (directory : String)
    (way : List String) :
    (tree.put place (.file new)).HasFile directory way ↔ tree.HasFile directory way := by
  rw [HasFile, HasFile, isDirectory_put_file h, place_put_file h]
  refine and_congr_right fun _ => and_congr_right fun _ => and_congr_right fun _ =>
    exists_congr fun start => ?_
  by_cases hway : start ++ way = place
  · simp [hway, h, at?_put_file h]
  · simp [hway, at?_put_file h]

/-- **The documents below a directory stay.** -/
theorem documents_put_file (h : tree.at? place = some (.file old)) (directory : String) :
    (tree.put place (.file new)).documents directory = tree.documents directory := by
  have hways : (tree.put place (.file new)).waysBelow directory = tree.waysBelow directory := by
    -- Both lists are in order and have the same ways.
    refine List.Perm.eq_of_pairwise (fun a b _ _ hab hba => ?_)
      (pairwise_waysBelow _ _) (pairwise_waysBelow _ _)
      ((List.perm_ext_iff_of_nodup (nodup_waysBelow _ _) (nodup_waysBelow _ _)).mpr fun way => ?_)
    · have hgt : compare a b = .gt := Std.OrientedCmp.gt_of_lt hba
      rw [hab] at hgt
      cases hgt
    · rw [mem_waysBelow_iff, mem_waysBelow_iff, hasFile_put_file h]
  rw [documents, documents, hways]

end Rulebook.FileTree
