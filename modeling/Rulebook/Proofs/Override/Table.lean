/-
**The report as a table.**

The report of a collection lists its overrides by category, each as a line of five cells between
bars.  The overrides are regrouped twice on the way there, by the text of their key and then by their
category.  Neither loses anything or changes the order of overrides of one key, since both come to
sorting, which keeps the order of equals.

The report is read here as the Markdown that it is: its sections are those of a document, the lines
that begin with a bar are those of a table, the first two of these are the head, and the cells of the
others stand between bars with a blank at each side.  The id of a rule and the reason of an override
come from a configuration and are written as they are.  A bar in one of them adds a cell to the
line, and a line feed ends the line; nothing else does any harm.

Main definitions:

* `Rulebook.Override.sorted` — overrides in the order of their keys;
* `Rulebook.Override.FitsTable` — the texts of an override can be written between bars;
* `Rulebook.Overrides.ReportPart`, `Rulebook.Overrides.readReport` — a report as it is read;
* `Rulebook.Overrides.tabulated` — the report that tells of the given overrides.

Main results:

* `Rulebook.Overrides.all_addAll` — a collection lists its overrides in the order of their keys;
* `Rulebook.Overrides.sections_report` — the sections of a report;
* `Rulebook.Overrides.report_faithful_iff` — **a report is faithful exactly if all texts in it fit**;
* `Rulebook.Overrides.not_always_faithful` — a report with a line of six cells.
-/

import Rulebook.Override.Report
import Rulebook.Proofs.Document.Fencing
import Rulebook.Proofs.Override.Group
import Rulebook.Proofs.Sorting

set_option autoImplicit false

namespace Rulebook

/-! ### The order of the keys -/

namespace Override

/-- Whether an override may come before another in the order of their keys. -/
def keyLE (o p : Override) : Bool := (compare o.key p.key).isLE

/-- Overrides in the order of their keys.  Those of one key stay in the order in which they came. -/
def sorted (ever : List Override) : List Override := ever.mergeSort keyLE

theorem keyLE_trans (o p q : Override) (hop : keyLE o p = true) (hpq : keyLE p q = true) :
    keyLE o q = true := Std.TransOrd.isLE_trans hop hpq

theorem keyLE_total (o p : Override) : (keyLE o p || keyLE p o) = true := by
  have hswap : compare p.key o.key = (compare o.key p.key).swap := Std.OrientedCmp.eq_swap
  rw [keyLE, keyLE, hswap]
  cases compare o.key p.key <;> rfl

theorem key_eq_of_keyLE (o p : Override) (hop : keyLE o p = true) (hpo : keyLE p o = true) :
    o.key = p.key := Std.LawfulEqCmp.eq_of_compare (Std.OrientedCmp.isLE_antisymm hop hpo)

theorem keyLE_of_key_eq (o p : Override) (h : o.key = p.key) : keyLE o p = true := by
  simp [keyLE, h]

end Override

namespace Overrides

/-- What a group of a well kept collection holds is for its key. -/
theorem WellKept.key_of_mem {os : Overrides} (h : os.WellKept) {entry : String × List Override}
    (hentry : entry ∈ os.groups.entries) {o : Override} (ho : o ∈ entry.2) : o.key = entry.1 :=
  (h entry.1 entry.2 ((os.groups.mem_entries_iff entry.1 entry.2).mp hentry)).2 o ho

/-- A well kept collection lists its overrides in the order of their keys. -/
theorem WellKept.pairwise_all {os : Overrides} (h : os.WellKept) :
    os.all.Pairwise fun o p => Override.keyLE o p = true := by
  rw [all, SortedMap.values, ← List.flatMap_def, List.pairwise_flatMap]
  constructor
  · -- the overrides of one group
    intro entry hentry
    refine List.pairwise_of_forall_mem_list fun o ho p hp => Override.keyLE_of_key_eq o p ?_
    rw [h.key_of_mem hentry ho, h.key_of_mem hentry hp]
  · -- the overrides of two groups
    refine os.groups.increasing.imp_of_mem fun {a b} ha hb hlt o ho p hp => ?_
    rw [Override.keyLE, h.key_of_mem ha ho, h.key_of_mem hb hp, hlt]
    rfl

/-- What a well kept collection lists with a key is the group of the key. -/
theorem WellKept.filter_all {os : Overrides} (h : os.WellKept) (key : String) :
    (os.all.filter fun o => o.key == key) = os.group key := by
  rw [all, SortedMap.values, ← List.flatMap_def, List.filter_flatMap,
    SortedMap.flatMap_entries os.groups key, group]
  · cases hget : os.groups.get? key with
    | none => rfl
    | some found =>
        refine List.filter_eq_self.mpr fun o ho => ?_
        simpa using (h key found hget).2 o ho
  · intro entry hentry hne
    refine List.filter_eq_nil_iff.mpr fun o ho => ?_
    rw [h.key_of_mem hentry ho]
    simpa using hne

/-- **A collection lists its overrides in the order of their keys**, and those of one key in the order
in which they were added. -/
theorem all_addAll (ever : List Override) : (empty.addAll ever).all = Override.sorted ever := by
  have hkept := wellKept_empty.addAll ever
  refine eq_mergeSort_of_filter_key_eq Override.keyLE_trans Override.keyLE_total
    Override.key_eq_of_keyLE Override.keyLE_of_key_eq hkept.pairwise_all fun key => ?_
  rw [hkept.filter_all, group_addAll, group_empty, List.nil_append]

theorem ofConfiguration_addAll (config : Configuration) (added : List Override) :
    (ofConfiguration config).addAll added = empty.addAll (config.overrides ++ added) :=
  (List.foldl_append).symm

theorem isEmpty_addAll (ever : List Override) :
    (empty.addAll ever).isEmpty = ever.isEmpty := by
  cases ever with
  | nil => rfl
  | cons o rest =>
      have hmem : o ∈ (empty.addAll (o :: rest)).all := by
        rw [all_addAll]
        exact List.mem_mergeSort.mpr List.mem_cons_self
      cases hempty : (empty.addAll (o :: rest)).isEmpty with
      | false => rfl
      | true =>
          rw [isEmpty, SortedMap.isEmpty_iff] at hempty
          rw [all, hempty] at hmem
          cases hmem

end Overrides

/-! ### Lines of a table -/

namespace Override

/-- Whether a text can be written between bars. -/
def IsCell (text : List Char) : Prop := '|' ∉ text ∧ '\n' ∉ text

instance (text : List Char) : Decidable (IsCell text) := inferInstanceAs (Decidable (_ ∧ _))

/-- Whether the texts of an override can be written between bars. -/
def FitsTable (o : Override) : Prop := IsCell o.ruleId.toList ∧ IsCell o.reason.toList

instance (o : Override) : Decidable o.FitsTable := inferInstanceAs (Decidable (_ ∧ _))

theorem cells_ne_nil (o : Override) : o.cells ≠ [] := List.cons_ne_nil _ _

/-- Only the id of the rule and the reason might not fit. -/
theorem fitsTable_iff (o : Override) :
    o.FitsTable ↔ ∀ cell ∈ o.cells, IsCell cell.toList := by
  have haction : IsCell o.action.name.toList := by
    cases o.action <;> decide
  have hseverity : IsCell ((o.newSeverity.map Severity.name).getD "-").toList := by
    cases o.newSeverity with
    | none => decide
    | some severity => cases severity <;> decide
  have horigin : IsCell o.appliedBy.name.toList := by
    cases o.appliedBy <;> decide
  simp [FitsTable, cells, haction, hseverity, horigin]

/-- A cell with a blank at each side. -/
def padded (cell : String) : List Char := ' ' :: (cell.toList ++ [' '])

/-- The line of a table is made of padded cells, with bars around them. -/
theorem toList_lineOfCells {cells : List String} (h : cells ≠ []) :
    (lineOfCells cells).toList = '|' :: (['|'].intercalate (cells.map padded) ++ ['|']) := by
  have hcells : ' ' :: ([' ', '|', ' '].intercalate (cells.map String.toList) ++ [' ']) =
      ['|'].intercalate (cells.map padded) := by
    induction cells with
    | nil => exact absurd rfl h
    | cons first more ih =>
        cases more with
        | nil => simp [padded]
        | cons second more =>
            -- The blanks around a bar are those of the cells beside it.
            rw [List.map_cons, List.map_cons, List.map_cons, List.map_cons,
              List.intercalate_cons_cons, List.intercalate_cons_cons, ← List.map_cons,
              ← List.map_cons, ← ih (List.cons_ne_nil _ _)]
            simp [padded]
  rw [← hcells, lineOfCells, String.toList_append, String.toList_append, String.toList_intercalate]
  simp

/-- The cells of a line of a table: what stands between bars, without the blank at each side. -/
def readCells (line : Document.Line) : List (List Char) :=
  ((Text.segments '|' line).drop 1).dropLast.map fun cell => (cell.drop 1).dropLast

/-- **The cells of a line are read back.** -/
theorem readCells_lineOfCells {cells : List String} (hne : cells ≠ [])
    (h : ∀ cell ∈ cells, '|' ∉ cell.toList) :
    readCells (lineOfCells cells).toList = cells.map String.toList := by
  have hpadded : ∀ part ∈ cells.map padded, '|' ∉ part := by
    intro part hpart
    obtain ⟨cell, hcell, rfl⟩ := List.mem_map.mp hpart
    simpa [padded] using h cell hcell
  have hsegments : Text.segments '|' (lineOfCells cells).toList =
      [] :: (cells.map padded ++ [[]]) := by
    rw [toList_lineOfCells hne, ← List.nil_append ('|' :: _), Text.segments_append_cons,
      Text.segments_append_cons, Text.segments_intercalate (by simpa using hne) hpadded]
    rfl
  rw [readCells, hsegments, List.drop_one, List.tail_cons, List.dropLast_concat, List.map_map]
  refine List.map_congr_left fun cell _ => ?_
  simp [padded]

/-- What is read from a line can be written between bars. -/
theorem isCell_of_mem_readCells {line : Document.Line} (h : '\n' ∉ line) {cell : List Char}
    (hcell : cell ∈ readCells line) : IsCell cell := by
  obtain ⟨part, hpart, rfl⟩ := List.mem_map.mp hcell
  have hsegment : part ∈ Text.segments '|' line :=
    List.mem_of_mem_drop (List.dropLast_subset _ hpart)
  have hinside (c : Char) (hc : c ∈ (part.drop 1).dropLast) : c ∈ part :=
    List.mem_of_mem_drop (List.dropLast_subset _ hc)
  exact ⟨fun hbar => Text.not_mem_of_mem_segments hsegment (hinside _ hbar),
    fun hfeed => h (Text.mem_of_mem_segments hsegment (hinside _ hfeed))⟩

end Override

/-! ### Reports as they are read -/

namespace Overrides

open Document

/-- A part of a report, as it is read. -/
structure ReportPart where
  /-- The level of the heading; zero for what comes before all headings. -/
  level : Nat
  /-- The text of the heading. -/
  heading : List Char
  /-- The lines that are not in the table, but for empty ones. -/
  notes : List Line
  /-- The first two lines of the table. -/
  head : List Line
  /-- The cells of the other lines of the table. -/
  rows : List (List (List Char))
  deriving DecidableEq, Repr

/-- Whether a line is in a table. -/
def isTableLine (line : Line) : Bool := line.head? == some '|'

/-- What is read from a section of a report. -/
def ReportPart.ofSection (s : Section) : ReportPart where
  level := s.level
  heading := s.heading
  notes := s.body.filter fun line => !isTableLine line && !line.isEmpty
  head := (s.body.filter isTableLine).take 2
  rows := ((s.body.filter isTableLine).drop 2).map Override.readCells

/-- A report as it is read. -/
def readReport (content : List Char) : List ReportPart :=
  (sections content).map ReportPart.ofSection

/-- The overrides of a category among others, in the order of their keys. -/
def inCategory (ever : List Override) (c : Category) : List Override :=
  (Override.sorted ever).filter fun o => o.category == c

/-- The categories that have overrides, in order. -/
def shownCategories (ever : List Override) : List Category :=
  Category.all.filter fun c => ever.any fun o => o.category == c

/-- The line that tells how many overrides there are. -/
def statedTotal (ever : List Override) : String :=
  if ever.isEmpty then "No overrides configured." else "Total overrides: " ++ toString ever.length

/-- The part of a report that tells of a category. -/
def tabulatedCategory (ever : List Override) (c : Category) : ReportPart where
  level := 2
  heading := c.name.toList
  notes := []
  head := tableHead.map String.toList
  rows := (inCategory ever c).map fun o => o.cells.map String.toList

/-- **The report that tells of the given overrides.**  After a title with their number, it has for
each category with overrides a table with a line of cells for each of them. -/
def tabulated (ever : List Override) : List ReportPart :=
  [⟨0, [], [], [], []⟩, ⟨1, "Rule Override Report".toList, [(statedTotal ever).toList], [], []⟩] ++
    (shownCategories ever).map (tabulatedCategory ever)

/-! ### The sections of a report -/

/-- The section at the beginning of a report. -/
def titleSection (ever : List Override) : Section where
  level := 1
  heading := "Rule Override Report".toList
  body := [[], (statedTotal ever).toList] ++ if ever.isEmpty then [] else [[]]

/-- The section of a category with the given overrides. -/
def categorySection (c : Category) (found : List Override) : Section where
  level := 2
  heading := c.name.toList
  body := [[]] ++ tableHead.map String.toList ++ (found.map fun o => o.tableLine.toList) ++ [[]]

/-- The sections of a report of the given overrides. -/
def reportSections (ever : List Override) : List Section :=
  titleSection ever :: (shownCategories ever).map fun c => categorySection c (inCategory ever c)

theorem inCategory_eq_nil_iff (ever : List Override) (c : Category) :
    inCategory ever c = [] ↔ (ever.any fun o => o.category == c) = false := by
  simp [inCategory, Override.sorted, List.filter_eq_nil_iff]

/-- Regrouped by category, the overrides of a collection are those of each category. -/
theorem get?_byCategory (ever : List Override) (c : Category) :
    (empty.addAll ever).byCategory.get? c =
      if ever.any (fun o => o.category == c) then some (inCategory ever c) else none := by
  have hgroups := SortedMap.groups_grouped Override.category (Override.sorted ever)
  rw [byCategory, all_addAll]
  refine Option.ext fun found => ?_
  rw [hgroups c found, Option.ite_none_right_eq_some, Option.some_inj, eq_comm (b := found)]
  change found = inCategory ever c ∧ found ≠ [] ↔ _
  constructor
  · rintro ⟨rfl, hne⟩
    rw [Ne, inCategory_eq_nil_iff, Bool.not_eq_false] at hne
    exact ⟨hne, rfl⟩
  · rintro ⟨hany, rfl⟩
    rw [Ne, inCategory_eq_nil_iff, Bool.not_eq_false]
    exact ⟨rfl, hany⟩

/-- The categories are listed in their order. -/
theorem entries_byCategory (ever : List Override) :
    (empty.addAll ever).byCategory.entries =
      (shownCategories ever).map fun c => (c, inCategory ever c) := by
  have hcategories : Category.all.Pairwise fun a b => compare a b = .lt := by decide
  rw [SortedMap.entries_eq_filterMap hcategories fun c _ _ => c.mem_all, shownCategories,
    ← List.filterMap_eq_map, List.filterMap_filter]
  refine List.filterMap_congr fun c _ => ?_
  rw [get?_byCategory]
  split <;> rfl

theorem toList_categoryTable (c : Category) (found : List Override) :
    (categoryTable c found).map String.toList = (categorySection c found).lines := by
  rw [categoryTable, categorySection, Section.lines, Section.headingLine]
  simp

/-- The lines of a report are those of its sections. -/
theorem toList_reportLines (ever : List Override) :
    (empty.addAll ever).reportLines.map String.toList =
      (reportSections ever).flatMap Section.lines := by
  have htables : ((empty.addAll ever).byCategory.entries.flatMap
        fun entry => categoryTable entry.1 entry.2).map String.toList =
      (shownCategories ever).flatMap fun c => (categorySection c (inCategory ever c)).lines := by
    rw [entries_byCategory, List.flatMap_map, List.map_flatMap]
    simp only [toList_categoryTable]
  have hsize : (empty.addAll ever).size = ever.length := by
    rw [size, all_addAll, Override.sorted, List.length_mergeSort]
  rw [reportLines, isEmpty_addAll, hsize, reportSections, List.flatMap_cons, List.flatMap_map,
    ← htables]
  cases ever with
  | nil => rfl
  | cons o rest => simp [titleSection, Section.lines, Section.headingLine, statedTotal]

/-! ### Reading a report -/

/-- The line of an override begins with a bar, and ends with one. -/
theorem exists_toList_tableLine (o : Override) :
    ∃ inside, o.tableLine.toList = '|' :: (inside ++ ['|']) :=
  ⟨_, Override.toList_lineOfCells o.cells_ne_nil⟩

/-- The line of an override whose texts fit is a line. -/
theorem isLine_tableLine {o : Override} (h : o.FitsTable) : Text.IsLine o.tableLine.toList := by
  obtain ⟨inside, hinside⟩ := exists_toList_tableLine o
  refine ⟨fun hfeed => ?_, by rw [hinside, ← List.cons_append, List.getLast?_concat]; decide⟩
  rw [Override.tableLine, Override.toList_lineOfCells o.cells_ne_nil, List.mem_cons,
    List.mem_append, List.mem_singleton] at hfeed
  obtain hbar | hfeed | hbar := hfeed
  · exact absurd hbar (by decide)
  · obtain hbar | ⟨part, hpart, hfeed⟩ := Text.mem_or_exists_of_mem_intercalate hfeed
    · exact absurd (List.mem_singleton.mp hbar) (by decide)
    · obtain ⟨cell, hcell, rfl⟩ := List.mem_map.mp hpart
      refine (o.fitsTable_iff.mp h cell hcell).2 ?_
      simpa [Override.padded] using hfeed
  · exact absurd hbar (by decide)

theorem exists_toList_statedTotal (ever : List Override) :
    ∃ c rest, (statedTotal ever).toList = c :: rest ∧ (c = 'N' ∨ c = 'T') := by
  rw [statedTotal]
  split
  · exact ⟨'N', "o overrides configured.".toList, rfl, .inl rfl⟩
  · rw [String.toList_append]
    exact ⟨'T', "otal overrides: ".toList ++ _, rfl, .inr rfl⟩

theorem ofSection_titleSection (ever : List Override) :
    ReportPart.ofSection (titleSection ever) =
      ⟨1, "Rule Override Report".toList, [(statedTotal ever).toList], [], []⟩ := by
  obtain ⟨c, rest, htotal, hc⟩ := exists_toList_statedTotal ever
  have hbar : (c == '|') = false := by
    obtain rfl | rfl := hc <;> rfl
  rw [titleSection, htotal]
  cases ever.isEmpty <;> simp [ReportPart.ofSection, isTableLine, hbar]

theorem ofSection_categorySection (c : Category) {found : List Override}
    (h : ∀ o ∈ found, o.FitsTable) :
    ReportPart.ofSection (categorySection c found) =
      ⟨2, c.name.toList, [], tableHead.map String.toList,
        found.map fun o => o.cells.map String.toList⟩ := by
  have hrows : ∀ line ∈ found.map fun o => o.tableLine.toList, isTableLine line = true := by
    intro line hline
    obtain ⟨o, -, rfl⟩ := List.mem_map.mp hline
    obtain ⟨inside, hinside⟩ := exists_toList_tableLine o
    rw [hinside]
    rfl
  have htable : (categorySection c found).body.filter isTableLine =
      tableHead.map String.toList ++ found.map fun o => o.tableLine.toList := by
    have hhead : (tableHead.map String.toList).filter isTableLine = tableHead.map String.toList :=
      List.filter_eq_self.mpr (by decide)
    rw [categorySection, List.filter_append, List.filter_append, List.filter_append,
      List.filter_eq_self.mpr hrows, hhead]
    exact List.append_nil _
  have hnotes : (categorySection c found).body.filter
      (fun line => !isTableLine line && !line.isEmpty) = [] := by
    have hnone : (found.map fun o => o.tableLine.toList).filter
        (fun line => !isTableLine line && !line.isEmpty) = [] :=
      List.filter_eq_nil_iff.mpr fun line hline => by simp [hrows line hline]
    rw [categorySection, List.filter_append, List.filter_append, hnone]
    rfl
  have hcells : (found.map fun o => o.tableLine.toList).map Override.readCells =
      found.map fun o => o.cells.map String.toList := by
    rw [List.map_map]
    refine List.map_congr_left fun o ho => ?_
    rw [Function.comp_apply, Override.tableLine]
    exact Override.readCells_lineOfCells o.cells_ne_nil fun cell hcell =>
      (o.fitsTable_iff.mp (h o ho) cell hcell).1
  rw [ReportPart.ofSection, htable, hnotes, ← hcells]
  rfl

theorem mem_of_mem_inCategory {ever : List Override} {c : Category} {o : Override}
    (ho : o ∈ inCategory ever c) : o ∈ ever :=
  List.mem_mergeSort.mp (List.mem_of_mem_filter ho)

/-- The lines under the headings of a report. -/
theorem cases_of_mem_body {ever : List Override} {s : Section} (hs : s ∈ reportSections ever)
    {line : Line} (hline : line ∈ s.body) :
    line = [] ∨ line = (statedTotal ever).toList ∨ line ∈ tableHead.map String.toList ∨
      ∃ o ∈ ever, line = o.tableLine.toList := by
  rcases List.mem_cons.mp hs with rfl | hs
  · rw [titleSection] at hline
    rcases List.mem_append.mp hline with hline | hline
    · rcases List.mem_cons.mp hline with rfl | hline
      · exact .inl rfl
      · exact .inr (.inl (List.mem_singleton.mp hline))
    · split at hline
      · cases hline
      · exact .inl (List.mem_singleton.mp hline)
  · obtain ⟨c, -, rfl⟩ := List.mem_map.mp hs
    rw [categorySection, List.mem_append, List.mem_append, List.mem_append] at hline
    rcases hline with ((hline | hline) | hline) | hline
    · exact .inl (List.mem_singleton.mp hline)
    · exact .inr (.inr (.inl hline))
    · obtain ⟨o, ho, rfl⟩ := List.mem_map.mp hline
      exact .inr (.inr (.inr ⟨o, mem_of_mem_inCategory ho, rfl⟩))
    · exact .inl (List.mem_singleton.mp hline)

theorem cases_of_mem_reportSections {ever : List Override} {s : Section}
    (hs : s ∈ reportSections ever) :
    (s.level = 1 ∧ s.heading = "Rule Override Report".toList) ∨
      ∃ c : Category, s.level = 2 ∧ s.heading = c.name.toList := by
  rcases List.mem_cons.mp hs with rfl | hs
  · exact .inl ⟨rfl, rfl⟩
  · obtain ⟨c, -, rfl⟩ := List.mem_map.mp hs
    exact .inr ⟨c, rfl, rfl⟩

/-- The sections of a report are divided off by their headings, whatever texts there are in it. -/
theorem standsAlone_of_mem_reportSections {ever : List Override} {s : Section}
    (hs : s ∈ reportSections ever) : s.StandsAlone := by
  have htitle : 1 ≤ s.level ∧ s.level ≤ 6 ∧ Text.trim s.heading = s.heading := by
    obtain ⟨hlevel, hheading⟩ | ⟨c, hlevel, hheading⟩ := cases_of_mem_reportSections hs
    · rw [hlevel, hheading]
      decide
    · rw [hlevel, hheading]
      cases c <;> decide
  refine ⟨htitle.1, htitle.2.1, htitle.2.2, closed_of_isText fun line hline => ?_⟩
  rcases cases_of_mem_body hs hline with rfl | rfl | hhead | ⟨o, -, rfl⟩
  · exact isText_nil
  · obtain ⟨c, rest, htotal, hc⟩ := exists_toList_statedTotal ever
    rw [htotal]
    obtain rfl | rfl := hc <;> exact ⟨rfl, rfl⟩
  · have htexts : ∀ text ∈ tableHead.map String.toList, IsText text := by decide
    exact htexts line hhead
  · obtain ⟨inside, hinside⟩ := exists_toList_tableLine o
    rw [hinside]
    exact ⟨rfl, rfl⟩

theorem unbroken_statedTotal (ever : List Override) :
    Text.Unbroken (statedTotal ever).toList := by
  rw [statedTotal]
  split
  · decide
  · have hdigits : Text.Unbroken (toString ever.length).toList := by
      refine Text.unbroken_of_forall fun c hc => ?_
      rw [Nat.toString_eq_repr, Nat.toList_repr] at hc
      have hdigit := Nat.isDigit_of_mem_toDigits (by decide) (Nat.le_refl 10) hc
      constructor
      · rintro rfl
        cases hdigit
      · rintro rfl
        cases hdigit
    rw [String.toList_append]
    exact Text.Unbroken.append (by decide) hdigits

/-- If all texts fit, the lines of a report are read back. -/
theorem lines_report {ever : List Override} (h : ∀ o ∈ ever, o.FitsTable) :
    Text.lines (empty.addAll ever).report.toList = (reportSections ever).flatMap Section.lines := by
  rw [report, Text.toList_page, toList_reportLines]
  refine Text.lines_written_of_isLine fun line hline => ?_
  obtain ⟨s, hs, hline⟩ := List.mem_flatMap.mp hline
  rcases List.mem_cons.mp hline with rfl | hline
  · rw [Section.headingLine]
    obtain ⟨hlevel, hheading⟩ | ⟨c, hlevel, hheading⟩ := cases_of_mem_reportSections hs
    · rw [hlevel, hheading]
      decide
    · rw [hlevel, hheading]
      cases c <;> decide
  · rcases cases_of_mem_body hs hline with rfl | rfl | hhead | ⟨o, ho, rfl⟩
    · decide
    · exact (unbroken_statedTotal ever).isLine
    · have hlines : ∀ text ∈ tableHead.map String.toList, Text.IsLine text := by decide
      exact hlines line hhead
    · exact isLine_tableLine (h o ho)

/-- **The sections of a report.** -/
theorem sections_report {ever : List Override} (h : ∀ o ∈ ever, o.FitsTable) :
    sections (empty.addAll ever).report.toList = ⟨0, [], []⟩ :: reportSections ever :=
  sections_of_lines (lines_report h) fun _ => standsAlone_of_mem_reportSections

/-- What is read from a report can be written between bars. -/
theorem isCell_of_mem_rows {content : List Char} {part : ReportPart}
    (hpart : part ∈ readReport content) {row : List (List Char)} (hrow : row ∈ part.rows)
    {cell : List Char} (hcell : cell ∈ row) : Override.IsCell cell := by
  obtain ⟨s, hs, rfl⟩ := List.mem_map.mp hpart
  obtain ⟨line, hline, rfl⟩ := List.mem_map.mp hrow
  have hbody : line ∈ s.body := List.mem_of_mem_filter (List.mem_of_mem_drop hline)
  exact Override.isCell_of_mem_readCells
    (Text.not_mem_of_mem_lines (mem_lines_of_mem_body hs hbody)) hcell

/-- What is gone through without effect may be left out. -/
theorem flatMap_filter {α β : Type} {p : α → Bool} {f g : α → List β}
    (h : ∀ a, g a = if p a then f a else []) (l : List α) :
    (l.filter p).flatMap f = l.flatMap g := by
  induction l with
  | nil => rfl
  | cons a l ih =>
      rw [List.filter_cons, List.flatMap_cons, ← ih, h a]
      split
      · rw [List.flatMap_cons]
      · rfl

/-- The categories together have every override once. -/
theorem perm_inCategory (ever : List Override) :
    ((shownCategories ever).flatMap (inCategory ever)).Perm ever := by
  have hshown : (shownCategories ever).flatMap (inCategory ever) =
      Category.all.flatMap (inCategory ever) := by
    refine flatMap_filter (fun c => ?_) _
    split
    · rfl
    · rename_i hnone
      exact (inCategory_eq_nil_iff ever c).mpr (Bool.eq_false_iff.mpr hnone)
  rw [hshown]
  refine List.Perm.trans ?_ (List.mergeSort_perm ever Override.keyLE)
  -- An override is counted in its own category only, as often as among all.
  rw [List.perm_iff_count]
  intro o
  have hcount (c : Category) : (inCategory ever c).count o =
      if o.category = c then (Override.sorted ever).count o else 0 := by
    split
    · rename_i hc
      exact List.count_filter (by simpa using hc)
    · rename_i hc
      exact List.count_eq_zero.mpr fun hmem => hc (by simpa using (List.mem_filter.mp hmem).2)
  rw [List.count_flatMap]
  change (Category.all.map fun c => (inCategory ever c).count o).sum = (Override.sorted ever).count o
  simp only [hcount]
  cases o.category <;> simp [Category.all]

theorem flatMap_rows_tabulated (ever : List Override) :
    (tabulated ever).flatMap ReportPart.rows =
      ((shownCategories ever).flatMap (inCategory ever)).map fun o => o.cells.map String.toList := by
  rw [tabulated, List.flatMap_append, List.flatMap_map, List.map_flatMap]
  rfl

/-- Only what fits is read back. -/
theorem fitsTable_of_readReport_eq {ever : List Override}
    (h : readReport (empty.addAll ever).report.toList = tabulated ever) :
    ∀ o ∈ ever, o.FitsTable := by
  intro o ho
  have hrow : (o.cells.map String.toList) ∈ (tabulated ever).flatMap ReportPart.rows := by
    rw [flatMap_rows_tabulated]
    exact List.mem_map_of_mem ((perm_inCategory ever).mem_iff.mpr ho)
  -- So the row is read from a line, where there is nothing that does not fit.
  rw [← h] at hrow
  obtain ⟨part, hpart, hrow⟩ := List.mem_flatMap.mp hrow
  exact o.fitsTable_iff.mpr fun cell hcell =>
    isCell_of_mem_rows hpart hrow (List.mem_map_of_mem hcell)

/-- What is read from a report of overrides that fit. -/
theorem readReport_of_fitsTable {ever : List Override} (h : ∀ o ∈ ever, o.FitsTable) :
    readReport (empty.addAll ever).report.toList = tabulated ever := by
  have htables : (shownCategories ever).map
        (fun c => ReportPart.ofSection (categorySection c (inCategory ever c))) =
      (shownCategories ever).map (tabulatedCategory ever) := by
    refine List.map_congr_left fun c _ => ?_
    exact ofSection_categorySection c fun o ho => h o (mem_of_mem_inCategory ho)
  rw [readReport, sections_report h, reportSections, List.map_cons, List.map_cons, List.map_map,
    ofSection_titleSection, tabulated, ← htables]
  rfl

/-- **A report is faithful exactly if all texts in it fit.**  It has the lines of a title and of a
table for each category with overrides, whatever texts these bring along.  Read as Markdown, it tells
of the overrides that were ever added, with five cells for each of them, exactly if no id of a rule
and no reason holds a bar or a line feed.  Each override that was ever added, by the configuration or
one by one, has its row in one of the tables. -/
theorem report_faithful_iff (config : Configuration) (added : List Override) :
    let ever := config.overrides ++ added
    let report := ((ofConfiguration config).addAll added).report.toList
    report = Text.written ((reportSections ever).flatMap Section.lines) ∧
    (readReport report = tabulated ever ↔ ∀ o ∈ ever, o.FitsTable) ∧
    ((tabulated ever).flatMap ReportPart.rows).Perm
      (ever.map fun o => o.cells.map String.toList) := by
  intro ever report
  have hreport : report = (empty.addAll ever).report.toList := by
    rw [← ofConfiguration_addAll]
  refine ⟨?_, ?_, ?_⟩
  · rw [hreport, Overrides.report, Text.toList_page, toList_reportLines]
  · rw [hreport]
    exact ⟨fitsTable_of_readReport_eq, readReport_of_fitsTable⟩
  · rw [flatMap_rows_tabulated]
    exact (perm_inCategory ever).map _

/-- A rule that is switched off for kernels for some reason. -/
def namingOff (reason : String) : Override where
  ruleId := "core-naming"
  category := .kernel
  action := .disable
  newSeverity := none
  reason := reason
  appliedBy := .category

/-- **Not every report is faithful.**  A bar in a reason makes six cells of five, and a line feed
leaves three of them on the line, and one on the next, which is not in the table any more. -/
theorem not_always_faithful :
    readReport (empty.addAll [namingOff "a | b"]).report.toList ≠ tabulated [namingOff "a | b"] ∧
    (Override.readCells (namingOff "a | b").tableLine.toList).length = 6 ∧
    (Text.lines (namingOff "a\nb").tableLine.toList).map (fun line =>
      (isTableLine line, (Override.readCells line).length)) = [(true, 3), (false, 1)] := by
  refine ⟨fun h => ?_, by decide, by decide⟩
  have hfits := fitsTable_of_readReport_eq h _ (List.mem_singleton_self _)
  exact absurd hfits (by decide)

end Overrides

end Rulebook
