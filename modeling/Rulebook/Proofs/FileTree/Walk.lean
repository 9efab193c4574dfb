/-
**Walking through a directory.**

A walk lists the files below a directory, each by the path of the directory with the way down to the
file behind it.  The ways come in the order of their names, compared one after the other: so the
inside of a directory comes where the directory stands among its neighbours, before the next of
them.  As names hold no slash, different ways give different paths, and no path is listed twice.

Main definitions:

* `Rulebook.FileTree.HasFile` — there is a file at the end of a way from a directory;
* `Rulebook.FileTree.waysBelow` — the ways to the files below a directory, in order;
* `Rulebook.FileTree.documents` — the documents among these files.

Main results:

* `Rulebook.FileTree.isPlace_partsFrom` — every path names a place;
* `Rulebook.FileTree.mem_waysBelow_iff`, `Rulebook.FileTree.pairwise_waysBelow` — the ways lead to
  all files below the directory, in order;
* `Rulebook.Path.joinAll_injOn` — different ways give different paths;
* `Rulebook.FileTree.nodup_documents` — **no document is listed twice**.
-/

import Mathlib.Data.List.Nodup
import Rulebook.FileTree.Basic
import Rulebook.Proofs.SortedMap
import Rulebook.Proofs.Text.Segments

set_option autoImplicit false

namespace Rulebook

/-! ### Paths with names behind them -/

namespace Path

/-- What stands between a path and what is joined to it. -/
def gap (base : String) : List Char := if base = "" ∨ endsWithSlash base then [] else ['/']

theorem toList_join {base name : String} (h : IsName name) :
    (join base name).toList = base.toList ++ gap base ++ name.toList := by
  have habsolute : isAbsolute name = false := by
    rw [isAbsolute, beq_eq_false_iff_ne]
    intro hhead
    exact h.2 (List.mem_of_head? hhead)
  rw [join, if_neg (by simp [habsolute]), gap]
  split <;> simp

/-- A path that ends with a name is not empty and has no slash at its end. -/
theorem gap_join {base name : String} (h : IsName name) : gap (join base name) = ['/'] := by
  have hne : name.toList ≠ [] := by simpa using h.1
  have hlast : (join base name).toList.getLast? = name.toList.getLast? := by
    rw [toList_join h, List.getLast?_append, Option.or_of_isSome (by simpa using h.1)]
  rw [gap, if_neg]
  rintro (hempty | hslash)
  · rw [hempty] at hlast
    exact hne (List.getLast?_eq_none_iff.mp hlast.symm)
  · rw [endsWithSlash, beq_iff_eq, hlast] at hslash
    exact h.2 (List.mem_of_getLast? hslash)

/-- A path with a way behind it is the path, and the names of the way with slashes between them. -/
theorem toList_joinAll (base name : String) (rest : List String)
    (h : ∀ other ∈ name :: rest, IsName other) :
    (joinAll base (name :: rest)).toList =
      base.toList ++ gap base ++ ['/'].intercalate ((name :: rest).map String.toList) := by
  induction rest generalizing base name with
  | nil =>
      rw [joinAll, List.foldl_cons, List.foldl_nil, toList_join (h name List.mem_cons_self)]
      simp
  | cons next rest ih =>
      obtain ⟨hname, hrest⟩ := List.forall_mem_cons.mp h
      have hjoin := ih (join base name) next hrest
      rw [joinAll, List.foldl_cons]
      rw [joinAll] at hjoin
      rw [hjoin, gap_join hname, toList_join hname, List.map_cons, List.map_cons, List.map_cons,
        List.intercalate_cons_cons]
      simp

/-- **Different ways give different paths.** -/
theorem joinAll_injOn {base : String} {a b : List String} (ha : ∀ name ∈ a, IsName name)
    (hb : ∀ name ∈ b, IsName name) (hane : a ≠ []) (hbne : b ≠ [])
    (h : joinAll base a = joinAll base b) : a = b := by
  have hlists : a.map String.toList = b.map String.toList := by
    cases a with
    | nil => exact absurd rfl hane
    | cons first rest =>
        cases b with
        | nil => exact absurd rfl hbne
        | cons other others =>
            have hchars := congrArg String.toList h
            rw [toList_joinAll base first rest ha, toList_joinAll base other others hb] at hchars
            -- No name has a slash, so the names are the segments of what follows the base.
            have hsegments := congrArg (Text.segments '/') (List.append_cancel_left hchars)
            rwa [Text.segments_intercalate (by simp) (by simpa using fun n hn => (ha n hn).2),
              Text.segments_intercalate (by simp) (by simpa using fun n hn => (hb n hn).2)]
              at hsegments
  exact (List.map_inj_right fun _ _ => String.toList_inj.mp).mp hlists

/-- The parts of a path are names. -/
theorem isName_of_mem_parts {path part : String} (h : part ∈ parts path) : IsName part := by
  obtain ⟨chars, hchars, rfl⟩ := List.mem_map.mp h
  obtain ⟨hsegment, hne⟩ := List.mem_filter.mp hchars
  refine ⟨fun hempty => ?_, ?_⟩
  · have hnil : chars = [] := by simpa using hempty
    simp [hnil] at hne
  · rw [String.toList_ofList]
    exact Text.not_mem_of_mem_segments hsegment

/-- Names make a place. -/
theorem isPlace_of_forall {place : List String} (h : ∀ name ∈ place, IsName name) :
    IsPlace place := by
  cases place with
  | nil => trivial
  | cons first rest =>
      obtain ⟨hfirst, hrest⟩ := List.forall_mem_cons.mp h
      exact ⟨.inr hfirst, hrest⟩

/-- A way on from a place is made of names, unless it begins at the root of all files. -/
theorem IsPlace.isName_of_append {place way : List String} (h : IsPlace (place ++ way))
    (hway : way.head? ≠ some "/") : ∀ name ∈ way, IsName name := by
  cases place with
  | cons first rest => exact fun name hname => h.2 name (List.mem_append_right _ hname)
  | nil =>
      cases way with
      | nil => exact List.forall_mem_nil _
      | cons first rest =>
          obtain ⟨hfirst, hrest⟩ := h
          have hne : first ≠ "/" := fun heq => hway (congrArg some heq)
          exact List.forall_mem_cons.mpr ⟨hfirst.resolve_left hne, hrest⟩

theorem head?_ne_slash {way : List String} (h : ∀ name ∈ way, IsName name) :
    way.head? ≠ some "/" := by
  intro hhead
  exact (h "/" (List.mem_of_head? hhead)).2 (by decide)

end Path

namespace FileTree

/-! ### Places -/

/-- **Every path names a place.** -/
theorem isPlace_partsFrom (tree : FileTree) (path : String) :
    Path.IsPlace (tree.partsFrom path) := by
  have hparts (other : String) : Path.IsPlace (Path.parts other) :=
    Path.isPlace_of_forall fun _ => Path.isName_of_mem_parts
  rw [partsFrom]
  split
  · trivial
  · exact hparts _
  · split
    · exact ⟨.inl rfl, fun _ => Path.isName_of_mem_parts⟩
    · exact hparts path

theorem at?_of_ne_nil (tree : FileTree) {place : List String} (h : place ≠ []) :
    tree.at? place = tree.nodes.get? place := by
  cases place with
  | nil => exact absurd rfl h
  | cons name rest => rfl

/-- There is nothing but at places. -/
theorem isPlace_of_at? {tree : FileTree} {place : List String} {node : Node}
    (h : tree.at? place = some node) : Path.IsPlace place := by
  cases place with
  | nil => trivial
  | cons name rest => exact tree.placed _ ((tree.nodes.mem_entries_iff _ _).mpr h)

/-! ### Ways -/

/-- There is a file at the end of a way from a directory, which is made of names. -/
def HasFile (tree : FileTree) (directory : String) (way : List String) : Prop :=
  tree.isDirectory directory = true ∧ way ≠ [] ∧ (∀ name ∈ way, Path.IsName name) ∧
    ∃ place content, tree.place directory = .ok place ∧
      tree.at? (place ++ way) = some (.file content)

/-- The ways to the files below a directory. -/
def waysBelow (tree : FileTree) (directory : String) : List (List String) :=
  (tree.below directory).filterMap fun entry => entry.2.content?.map fun _ => entry.1

theorem isDirectory_iff (tree : FileTree) (path : String) :
    tree.isDirectory path = true ↔ tree.find path = .ok .directory := by
  rw [isDirectory]
  split
  · rename_i h
    simp [h]
  · rename_i h
    simpa using h

/-- What leads to a directory leads to a place. -/
theorem exists_place_of_isDirectory {tree : FileTree} {path : String}
    (h : tree.isDirectory path = true) : ∃ place, tree.place path = .ok place := by
  rw [isDirectory_iff, find] at h
  cases hplace : tree.place path with
  | error cause =>
      rw [hplace] at h
      cases h
  | ok place => exact ⟨place, rfl⟩

theorem below_eq {tree : FileTree} {directory : String} {place : List String}
    (h : tree.isDirectory directory = true) (hplace : tree.place directory = .ok place) :
    tree.below directory = tree.belowPlace place := by
  rw [below, (tree.isDirectory_iff directory).mp h, hplace]

theorem below_of_not_isDirectory {tree : FileTree} {directory : String}
    (h : tree.isDirectory directory = false) : tree.below directory = [] := by
  rw [below]
  split
  · rename_i hfind _
    rw [(tree.isDirectory_iff directory).mpr hfind] at h
    cases h
  · rfl

theorem wayFrom?_eq_some_iff {start place way : List String} :
    wayFrom? start place = some way ↔
      place = start ++ way ∧ way ≠ [] ∧ way.head? ≠ some "/" := by
  rw [wayFrom?, eq_comm (a := place), ← List.isPrefixOf?_eq_some_iff_append_eq]
  cases hcut : start.isPrefixOf? place with
  | none => simp
  | some rest =>
      cases rest with
      | nil =>
          simp only [reduceCtorEq, Option.some_inj, false_iff, not_and]
          rintro rfl hne
          exact absurd rfl hne
      | cons first rest =>
          simp only [Option.ite_none_left_eq_some, Option.some_inj]
          constructor
          · rintro ⟨hhead, rfl⟩
            exact ⟨rfl, List.cons_ne_nil _ _, hhead⟩
          · rintro ⟨rfl, -, hhead⟩
            exact ⟨hhead, rfl⟩

theorem mem_belowPlace_iff {tree : FileTree} {place way : List String} {node : Node} :
    (way, node) ∈ tree.belowPlace place ↔
      way ≠ [] ∧ (∀ name ∈ way, Path.IsName name) ∧
        tree.nodes.get? (place ++ way) = some node := by
  rw [belowPlace, List.mem_filterMap]
  constructor
  · rintro ⟨⟨key, value⟩, hmem, hway⟩
    obtain ⟨other, hother, heq⟩ := Option.map_eq_some_iff.mp hway
    cases heq
    obtain ⟨rfl, hne, hhead⟩ := wayFrom?_eq_some_iff.mp hother
    exact ⟨hne, (tree.placed _ hmem).isName_of_append hhead,
      (tree.nodes.mem_entries_iff _ _).mp hmem⟩
  · rintro ⟨hne, hnames, hget⟩
    refine ⟨(place ++ way, node), (tree.nodes.mem_entries_iff _ _).mpr hget, ?_⟩
    rw [wayFrom?_eq_some_iff.mpr ⟨rfl, hne, Path.head?_ne_slash hnames⟩, Option.map_some]

/-- **The ways lead to all files below the directory.** -/
theorem mem_waysBelow_iff {tree : FileTree} {directory : String} {way : List String} :
    way ∈ tree.waysBelow directory ↔ tree.HasFile directory way := by
  rw [waysBelow, List.mem_filterMap, HasFile]
  cases hdirectory : tree.isDirectory directory with
  | false => simp [below_of_not_isDirectory hdirectory]
  | true =>
      obtain ⟨place, hplace⟩ := exists_place_of_isDirectory hdirectory
      rw [below_eq hdirectory hplace]
      constructor
      · rintro ⟨⟨found, node⟩, hmem, hcontent⟩
        obtain ⟨hne, hnames, hget⟩ := mem_belowPlace_iff.mp hmem
        cases node with
        | directory => cases hcontent
        | file content =>
            cases hcontent
            refine ⟨rfl, hne, hnames, place, content, hplace, ?_⟩
            rw [at?_of_ne_nil _ (by simp [hne]), hget]
      · rintro ⟨-, hne, hnames, other, content, hother, hat⟩
        have hsame : place = other := by
          rw [hplace] at hother
          exact Except.ok.inj hother
        rw [← hsame, at?_of_ne_nil _ (by simp [hne])] at hat
        exact ⟨(way, .file content), mem_belowPlace_iff.mpr ⟨hne, hnames, hat⟩, rfl⟩

/-- What two ways have in common at their beginning does not matter for their order. -/
theorem compare_append_left (place a b : List String) :
    compare (place ++ a) (place ++ b) = compare a b := by
  induction place with
  | nil => rfl
  | cons name place ih =>
      have hself : compare name name = .eq := Std.ReflCmp.compare_self
      rw [List.cons_append, List.cons_append, List.compare_cons_cons, ih, hself]
      rfl

/-- **The ways come in the order of their names.** -/
theorem pairwise_waysBelow (tree : FileTree) (directory : String) :
    (tree.waysBelow directory).Pairwise fun a b => compare a b = .lt := by
  have hbelow : (tree.below directory).Pairwise fun a b => compare a.1 b.1 = .lt := by
    cases hdirectory : tree.isDirectory directory with
    | false =>
        rw [below_of_not_isDirectory hdirectory]
        exact List.Pairwise.nil
    | true =>
        obtain ⟨place, hplace⟩ := exists_place_of_isDirectory hdirectory
        rw [below_eq hdirectory hplace, belowPlace, List.pairwise_filterMap]
        refine tree.nodes.increasing.imp fun {a b} hlt first hfirst second hsecond => ?_
        obtain ⟨way, hway, rfl⟩ := Option.map_eq_some_iff.mp hfirst
        obtain ⟨way', hway', rfl⟩ := Option.map_eq_some_iff.mp hsecond
        rwa [(wayFrom?_eq_some_iff.mp hway).1, (wayFrom?_eq_some_iff.mp hway').1,
          compare_append_left] at hlt
  rw [waysBelow, List.pairwise_filterMap]
  refine hbelow.imp fun {a b} hlt first hfirst second hsecond => ?_
  obtain ⟨-, -, rfl⟩ := Option.map_eq_some_iff.mp hfirst
  obtain ⟨-, -, rfl⟩ := Option.map_eq_some_iff.mp hsecond
  exact hlt

theorem nodup_waysBelow (tree : FileTree) (directory : String) :
    (tree.waysBelow directory).Nodup := by
  refine (tree.pairwise_waysBelow directory).imp fun {a b} hlt heq => ?_
  have hself : compare b b = .eq := Std.ReflCmp.compare_self
  rw [heq, hself] at hlt
  cases hlt

/-! ### Documents -/

/-- The documents below a directory, in the order of the walk. -/
def documents (tree : FileTree) (directory : String) : List String :=
  ((tree.waysBelow directory).map (Path.joinAll directory)).filter Path.isDocument

theorem walk_eq {tree : FileTree} {directory : String} (h : tree.isDirectory directory = true) :
    tree.walk directory = (tree.waysBelow directory).map (Path.joinAll directory) := by
  rw [walk, (tree.isDirectory_iff directory).mp h, waysBelow, List.map_filterMap]
  simp only [Option.map_map]
  rfl

theorem documents_of_not_isDirectory {tree : FileTree} {directory : String}
    (h : tree.isDirectory directory = false) : tree.documents directory = [] := by
  rw [documents, waysBelow, below_of_not_isDirectory h]
  rfl

/-- **No document is listed twice.** -/
theorem nodup_documents (tree : FileTree) (directory : String) :
    (tree.documents directory).Nodup := by
  refine (List.Nodup.map_on (fun a ha b hb heq => ?_) (tree.nodup_waysBelow directory)).filter _
  obtain ⟨-, hane, hanames, -⟩ := mem_waysBelow_iff.mp ha
  obtain ⟨-, hbne, hbnames, -⟩ := mem_waysBelow_iff.mp hb
  exact Path.joinAll_injOn hanames hbnames hane hbne heq

/-- A document below a directory is a file with the extension of documents. -/
theorem mem_documents_iff {tree : FileTree} {directory path : String} :
    path ∈ tree.documents directory ↔
      Path.isDocument path = true ∧
        ∃ way, tree.HasFile directory way ∧ path = Path.joinAll directory way := by
  rw [documents, List.mem_filter, List.mem_map, and_comm]
  refine and_congr_right fun _ => exists_congr fun way => ?_
  rw [mem_waysBelow_iff, eq_comm (a := path)]

end FileTree

end Rulebook
