/-
**Files directly in a directory.**

A file can be looked for by a path that ends with its name, and it can be found on a walk through
the directory that the path names before.  Both come to the same: a path with a name behind it has
the parts of the path and the name for its last part, so that if it leads to a file, then what stands
before the name leads to a directory in which there is that file.  The only thing that can come
between is the working directory: the name may complete the path to that directory, which is not a
file then.

Main results:

* `Rulebook.Path.parts_join` — a name behind a path is its last part;
* `Rulebook.Path.isDocument_join` — whether a path is that of a document is told by the last name;
* `Rulebook.FileTree.partsFrom_join` — so it is as seen from the working directory;
* `Rulebook.FileTree.hasFile_of_find_join` — **what a path with a name behind it leads to is in the
  directory**, if it is a file;
* `Rulebook.FileTree.find_of_readText_notText` — what is not a text is a file.
-/

import Rulebook.Proofs.FileTree.Walk
import Rulebook.Proofs.Json.Record

set_option autoImplicit false

namespace Rulebook

/-! ### Parts -/

namespace Path

/-- A name is its only part. -/
theorem parts_of_isName {name : String} (h : IsName name) : parts name = [name] := by
  rw [parts, Text.segments_of_not_mem h.2, List.filter_cons_of_pos (by simpa using h.1)]
  simp

/-- A slash ends a part. -/
theorem parts_of_toList_eq {path : String} (before behind : String)
    (h : path.toList = before.toList ++ '/' :: behind.toList) :
    parts path = parts before ++ parts behind := by
  rw [parts, h, Text.segments_append_cons, List.filter_append, List.map_append]
  rfl

theorem endsWithSlash_iff {path : String} :
    endsWithSlash path = true ↔ ∃ before : String, path.toList = before.toList ++ ['/'] := by
  rw [endsWithSlash, beq_iff_eq, List.getLast?_eq_some_iff]
  constructor
  · rintro ⟨before, h⟩
    exact ⟨String.ofList before, by rw [h, String.toList_ofList]⟩
  · rintro ⟨before, h⟩
    exact ⟨before.toList, h⟩

/-- **A name behind a path is its last part.** -/
theorem parts_join (base : String) {name : String} (h : IsName name) :
    parts (join base name) = parts base ++ [name] := by
  have hjoin : (join base name).toList = base.toList ++ gap base ++ name.toList := toList_join h
  rw [gap] at hjoin
  by_cases hempty : base = ""
  · subst hempty
    rw [if_pos (.inl rfl)] at hjoin
    have hsame : join "" name = name := String.toList_inj.mp (by simpa using hjoin)
    rw [hsame, parts_of_isName h]
    rfl
  · cases hslash : endsWithSlash base with
    | true =>
        obtain ⟨before, hbefore⟩ := endsWithSlash_iff.mp hslash
        rw [if_pos (.inr hslash), hbefore] at hjoin
        have hbase : parts base = parts before ++ parts "" := parts_of_toList_eq before "" hbefore
        rw [parts_of_toList_eq before name (by simpa using hjoin),
          parts_of_isName h, hbase]
        simp [parts, Text.segments]
    | false =>
        rw [if_neg (by simp [hempty, hslash])] at hjoin
        rw [parts_of_toList_eq base name (by simpa using hjoin),
          parts_of_isName h]

/-- Whether a path is that of a document is told by the last name. -/
theorem isDocument_join (base : String) {name : String} (h : IsName name) (hhere : name ≠ ".")
    (hup : name ≠ "..") :
    isDocument (join base name) =
      ((nameExtension? name.toList).map String.ofList == some "md") := by
  have hfile : fileName? (join base name) = some name := by
    rw [fileName?, parts_join base h, List.filter_append,
      List.filter_cons_of_pos (by simpa using hhere), List.filter_nil, List.getLast?_concat]
    split
    · rename_i heq
      exact absurd (Option.some.inj heq) hup
    · rfl
  rw [isDocument, extension?, hfile, Option.bind_some]

/-- What stands between a path and a name depends on the end of the path only. -/
theorem gap_append (front rest : String) (h : front ≠ "" → rest = "" → endsWithSlash front = true) :
    gap (front ++ rest) = gap rest := by
  by_cases hrest : rest = ""
  · subst hrest
    rw [String.append_empty]
    by_cases hfront : front = ""
    · rw [hfront]
    · rw [gap, gap, if_pos (.inr (h hfront rfl)), if_pos (.inl rfl)]
  · have hne : rest.toList ≠ [] := by simpa using hrest
    have hlast : endsWithSlash (front ++ rest) = endsWithSlash rest := by
      rw [endsWithSlash, endsWithSlash, String.toList_append, List.getLast?_append_of_ne_nil _ hne]
    have hwhole : front ++ rest ≠ "" := by
      intro heq
      have hlist := congrArg String.toList heq
      rw [String.toList_append] at hlist
      exact hne (List.append_eq_nil_iff.mp hlist).2
    rw [gap, gap, hlast]
    simp only [hrest, hwhole]

end Path

/-! ### Parts as seen from the working directory -/

namespace FileTree

variable {tree : FileTree}

/-- The parts of a path that does not lead into the working directory. -/
def partsOutside (path : String) : List String :=
  if Path.isAbsolute path then "/" :: Path.parts path else Path.parts path

theorem partsFrom_root (tree : FileTree) : tree.partsFrom tree.root = [] := by
  have hcut : tree.root.toList.isPrefixOf? tree.root.toList = some [] :=
    List.isPrefixOf?_eq_some_iff_append_eq.mpr (List.append_nil _)
  rw [partsFrom, hcut]

theorem partsFrom_inside {path rest : String}
    (h : path.toList = tree.root.toList ++ '/' :: rest.toList) :
    tree.partsFrom path = Path.parts rest := by
  rw [partsFrom, List.isPrefixOf?_eq_some_iff_append_eq.mpr h.symm]
  exact congrArg Path.parts String.ofList_toList

theorem partsFrom_outside {path : String} (hroot : path ≠ tree.root)
    (hinside : ∀ rest : String, path.toList ≠ tree.root.toList ++ '/' :: rest.toList) :
    tree.partsFrom path = partsOutside path := by
  rw [partsFrom]
  split
  · rename_i hcut
    have hsame := List.isPrefixOf?_eq_some_iff_append_eq.mp hcut
    rw [List.append_nil] at hsame
    exact absurd (String.toList_inj.mp hsame).symm hroot
  · rename_i rest hcut
    refine absurd (List.isPrefixOf?_eq_some_iff_append_eq.mp hcut).symm ?_
    simpa using hinside (String.ofList rest)
  · rfl

theorem partsOutside_join {base name : String} (hbase : base ≠ "") (hname : Path.IsName name) :
    partsOutside (Path.join base name) = partsOutside base ++ [name] := by
  have habsolute : Path.isAbsolute (Path.join base name) = Path.isAbsolute base := by
    rw [Path.isAbsolute, Path.isAbsolute, Path.toList_join hname, List.append_assoc,
      List.head?_append_of_ne_nil _ (by simpa using hbase)]
  rw [partsOutside, partsOutside, habsolute, Path.parts_join base hname]
  split <;> rfl

/-- A name behind a path does not make it lead into the working directory, if the path does not and
they do not name that directory together. -/
theorem join_ne_inside {base name : String} (hname : Path.IsName name) (hroot : base ≠ tree.root)
    (hinside : ∀ rest : String, base.toList ≠ tree.root.toList ++ '/' :: rest.toList)
    (rest : String) :
    (Path.join base name).toList ≠ tree.root.toList ++ '/' :: rest.toList := by
  rw [Path.toList_join hname, List.append_assoc]
  intro heq
  obtain ⟨more, hmore, hbehind⟩ | ⟨more, hmore, hbehind⟩ := List.append_eq_append_iff.mp heq
  · -- The working directory is below the path, so that the name would hold a slash.
    cases more with
    | nil => exact hroot (String.toList_inj.mp (by simpa using hmore.symm))
    | cons c more =>
        refine hname.2 ?_
        rw [Path.gap] at hbehind
        split at hbehind
        · rw [List.nil_append] at hbehind
          simp [hbehind]
        · rw [List.singleton_append, List.cons_append, List.cons.injEq] at hbehind
          simp [hbehind.2]
  · cases more with
    | nil => exact hroot (String.toList_inj.mp (by simpa using hmore))
    | cons c more =>
        rw [List.cons_append, List.cons.injEq] at hbehind
        refine hinside (String.ofList more) ?_
        rw [hmore, hbehind.1, String.toList_ofList]

/-- **A name behind a path is its last part** as seen from the working directory, unless both
together name that directory. -/
theorem partsFrom_join {base name : String} (hslash : Path.endsWithSlash tree.root = false)
    (hbase : base ≠ "") (hname : Path.IsName name) (hne : Path.join base name ≠ tree.root) :
    tree.partsFrom (Path.join base name) = tree.partsFrom base ++ [name] := by
  have hjoin : (Path.join base name).toList = base.toList ++ Path.gap base ++ name.toList :=
    Path.toList_join hname
  by_cases hroot : base = tree.root
  · have hgap : Path.gap base = ['/'] := by
      rw [Path.gap, if_neg]
      rintro (hempty | hends)
      · exact hbase hempty
      · rw [hroot, hslash] at hends
        cases hends
    rw [hgap, hroot, List.append_assoc, List.singleton_append] at hjoin
    rw [hroot, partsFrom_inside hjoin, Path.parts_of_isName hname, partsFrom_root]
    rfl
  · by_cases hinside : ∃ rest : String, base.toList = tree.root.toList ++ '/' :: rest.toList
    · obtain ⟨rest, hrest⟩ := hinside
      have hsplit : base = (tree.root ++ "/") ++ rest :=
        String.toList_inj.mp (by simpa [String.toList_append] using hrest)
      have hgap : Path.gap base = Path.gap rest := by
        rw [hsplit]
        exact Path.gap_append _ _ fun _ _ => by simp [Path.endsWithSlash, String.toList_append]
      have hwhole : (Path.join base name).toList =
          tree.root.toList ++ '/' :: (Path.join rest name).toList := by
        rw [hjoin, hgap, hrest, Path.toList_join hname]
        simp
      rw [partsFrom_inside hwhole, partsFrom_inside hrest, Path.parts_join rest hname]
    · have hinside' : ∀ rest : String, base.toList ≠ tree.root.toList ++ '/' :: rest.toList :=
        fun rest hrest => hinside ⟨rest, hrest⟩
      rw [partsFrom_outside hne (join_ne_inside hname hroot hinside'),
        partsFrom_outside hroot hinside', partsOutside_join hbase hname]

/-! ### What a path with a name behind it leads to -/

theorem place_of_ne_empty {path : String} (h : path ≠ "") :
    tree.place path = (tree.partsFrom path).foldlM tree.step [] := by
  rw [place, if_neg h]

/-- What leads to a file leads to a place where there is one. -/
theorem exists_place_of_find_file {path : String} {content : Content}
    (h : tree.find path = .ok (.file content)) :
    ∃ place, tree.place path = .ok place ∧ tree.at? place = some (.file content) := by
  obtain ⟨place, hplace, hnode⟩ := exists_of_bind_eq_ok h
  refine ⟨place, hplace, ?_⟩
  split at hnode
  · rename_i found hat
    split at hnode
    · cases hnode
    · cases hnode
      exact hat
  · cases hnode
  · cases hnode

/-- One part leads on from a directory only. -/
theorem step_eq_ok {start stop : List String} {part : String} (h : tree.step start part = .ok stop)
    (hhere : part ≠ ".") (hup : part ≠ "..") :
    tree.at? start = some .directory ∧ stop = start ++ [part] := by
  rw [step] at h
  split at h
  · rename_i hat
    rw [if_neg hhere, if_neg hup] at h
    exact ⟨hat, (Except.ok.inj h).symm⟩
  · cases h
  · cases h

/-- **What a path with a name behind it leads to is in the directory**, if it is a file. -/
theorem hasFile_of_find_join {base name : String} {content : Content}
    (hslash : Path.endsWithSlash tree.root = false) (hbase : base ≠ "") (hname : Path.IsName name)
    (hhere : name ≠ ".") (hup : name ≠ "..")
    (h : tree.find (Path.join base name) = .ok (.file content)) : tree.HasFile base [name] := by
  obtain ⟨stop, hstop, hat⟩ := exists_place_of_find_file h
  have hpath : Path.join base name ≠ "" := by
    intro hempty
    rw [hempty] at hstop
    cases hstop
  rw [place_of_ne_empty hpath] at hstop
  have hroot : Path.join base name ≠ tree.root := by
    intro heq
    rw [heq, partsFrom_root] at hstop
    cases hstop
    cases hat
  rw [partsFrom_join hslash hbase hname hroot, List.foldlM_append] at hstop
  obtain ⟨start, hstart, hlast⟩ := exists_of_bind_eq_ok hstop
  rw [List.foldlM_cons] at hlast
  obtain ⟨next, hnext, hdone⟩ := exists_of_bind_eq_ok hlast
  cases hdone
  obtain ⟨hdirectory, rfl⟩ := step_eq_ok hnext hhere hup
  have hplace : tree.place base = .ok start := by
    rw [place_of_ne_empty hbase, hstart]
  refine ⟨?_, List.cons_ne_nil _ _, List.forall_mem_singleton.mpr hname, start, content, hplace,
    hat⟩
  rw [isDirectory_iff, find, hplace]
  simp only [bind, Except.bind, hdirectory]
  rfl

/-! ### What is not a text -/

theorem step_ne_notText (start : List String) (part : String) :
    tree.step start part ≠ .error .notText := by
  intro h
  rw [step] at h
  split at h
  · split at h
    · cases h
    · split at h
      · split at h <;> cases h
      · cases h
  · cases h
  · cases h

theorem foldlM_step_ne_notText (parts start : List String) :
    parts.foldlM tree.step start ≠ .error .notText := by
  induction parts generalizing start with
  | nil =>
      intro h
      cases h
  | cons part parts ih =>
      rw [List.foldlM_cons]
      cases hstep : tree.step start part with
      | error cause =>
          intro h
          cases h
          exact step_ne_notText start part hstep
      | ok next => exact ih next

/-- What is not a text is a file, and of bytes. -/
theorem find_of_readText_notText {path : String} (h : tree.readText path = .error .notText) :
    tree.find path = .ok (.file .binary) := by
  rw [readText] at h
  cases hfind : tree.find path with
  | error cause =>
      rw [hfind] at h
      cases h
      -- No path fails for this reason.
      exfalso
      rw [find] at hfind
      cases hplace : tree.place path with
      | error cause =>
          rw [hplace] at hfind
          cases hfind
          rw [place] at hplace
          split at hplace
          · cases hplace
          · exact foldlM_step_ne_notText _ _ hplace
      | ok place =>
          rw [hplace] at hfind
          simp only [bind, Except.bind] at hfind
          split at hfind
          · split at hfind <;> cases hfind
          · cases hfind
          · cases hfind
  | ok node =>
      rw [hfind] at h
      cases node with
      | directory => cases h
      | file content =>
          cases content with
          | text value => cases h
          | binary => rfl

end FileTree

end Rulebook
