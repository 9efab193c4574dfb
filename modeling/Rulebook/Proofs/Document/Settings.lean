/-
**Settings that are written out.**

A setting is written as a list item with its name between double asterisks, a colon, and its value;
categories are written with a comma and a space between them.  What is read back is the setting,
with its name in lower case, unless something of the value would be taken for blanks around it or
for back quotes that decorate it.

Main definitions:

* `Rulebook.Document.bulletLine` — the line of a setting;
* `Rulebook.Document.IsName`, `Rulebook.Document.IsValue` — names and values that can be written;
* `Rulebook.Document.categoryList` — categories with commas between them.

Main results:

* `Rulebook.Document.bullet?_bulletLine` — **a written setting is read back**;
* `Rulebook.Document.parseCategories_categoryList` — **and so are written categories**.
-/

import Rulebook.Document.Parse
import Rulebook.Proofs.Document.Sections

set_option autoImplicit false

namespace Rulebook.Document

/-! ### List items -/

/-- The line of a setting. -/
def bulletLine (name value : List Char) : Line :=
  ['-', ' ', '*', '*'] ++ (name ++ ['*', '*', ':', ' '] ++ value)

/-- A name that can stand between asterisks. -/
structure IsName (name : List Char) : Prop where
  /-- There is something of it. -/
  ne_nil : name ≠ []
  /-- It has no blanks around it. -/
  trim_eq : Text.trim name = name
  /-- It holds nothing that would end it. -/
  inside : ∀ c ∈ name, (c != '*' && c != ':') = true

instance (name : List Char) : Decidable (IsName name) :=
  decidable_of_iff
    (name ≠ [] ∧ Text.trim name = name ∧ (name.all fun c => c != '*' && c != ':') = true)
    (by rw [List.all_eq_true]; exact ⟨fun h => ⟨h.1, h.2.1, h.2.2⟩, fun h => ⟨h.1, h.2, h.3⟩⟩)

/-- A value that is not taken for anything less: it has neither blanks nor back quotes around it. -/
def IsValue (value : List Char) : Prop :=
  Text.Ends (fun c => Text.isBlank c = false ∧ (c == '`') = false) value

instance (value : List Char) : Decidable (IsValue value) :=
  inferInstanceAs (Decidable (Text.Ends _ value))

theorem IsValue.trim_eq {value : List Char} (h : IsValue value) : Text.trim value = value :=
  Text.trim_eq_self_iff_ends.mpr (h.imp fun _ hc => hc.1)

theorem IsValue.dropTicks_eq {value : List Char} (h : IsValue value) : dropTicks value = value := by
  rw [dropTicks, (Text.dropWhile_eq_self_iff _ value).mpr fun c hc => (h.1 c hc).2]
  exact (Text.dropEndWhile_eq_self_iff _ value).mpr fun c hc => (h.2 c hc).2

theorem isText_bulletLine (name value : List Char) : IsText (bulletLine name value) := ⟨rfl, rfl⟩

theorem unbroken_bulletLine {name value : List Char} (hname : Text.Unbroken name)
    (hvalue : Text.Unbroken value) : Text.Unbroken (bulletLine name value) := by
  have hstart : Text.Unbroken ['-', ' ', '*', '*'] := by decide
  have hmiddle : Text.Unbroken ['*', '*', ':', ' '] := by decide
  exact hstart.append ((hname.append hmiddle).append hvalue)

theorem itemText?_bulletLine (name value : List Char) :
    itemText? (bulletLine name value) =
      some ('*' :: '*' :: (name ++ ['*', '*', ':', ' '] ++ value)) := rfl

/-- **A written setting is read back.** -/
theorem bullet?_bulletLine {name value : List Char} (hname : IsName name) (hvalue : IsValue value) :
    bullet? (bulletLine name value) = some (setting name value) := by
  obtain ⟨c, rest, hcons⟩ := List.exists_cons_of_ne_nil hname.ne_nil
  obtain ⟨hhead, hlast⟩ := (Text.trim_eq_self_iff name).mp hname.trim_eq
  have hinner : Text.trimStart (name ++ ['*', '*', ':', ' '] ++ value) =
      name ++ '*' :: '*' :: ':' :: ' ' :: value := by
    rw [List.append_assoc]
    refine (Text.dropWhile_eq_self_iff Text.isBlank _).mpr ?_
    rw [hcons] at hhead ⊢
    exact hhead
  have htake : (name ++ '*' :: '*' :: ':' :: ' ' :: value).takeWhile
      (fun c => c != '*' && c != ':') = name := by
    rw [List.takeWhile_append_of_pos hname.inside]
    exact List.append_nil name
  have hdrop : (name ++ '*' :: '*' :: ':' :: ' ' :: value).dropWhile
      (fun c => c != '*' && c != ':') = '*' :: '*' :: ':' :: ' ' :: value := by
    rw [List.dropWhile_append_of_pos hname.inside]
    rfl
  have htrimEnd : Text.trimEnd name = name :=
    (Text.dropEndWhile_eq_self_iff Text.isBlank name).mpr hlast
  have hkept : Text.trim (dropColon (Text.trimStart (':' :: ' ' :: value))) = value := by
    change Text.trim (' ' :: value) = value
    rw [Text.trim_cons rfl, hvalue.trim_eq]
  rw [bullet?, itemText?_bulletLine]
  simp only [Option.bind_eq_bind, Option.bind_some, afterStars?, hinner, htake, hdrop, htrimEnd]
  change (if name.isEmpty = true then none else some (setting name (dropTicks (Text.trim
    (dropColon (Text.trimStart (':' :: ' ' :: value))))))) = _
  rw [if_neg (by simpa using hname.ne_nil), hkept, hvalue.dropTicks_eq]

/-- The settings of written settings. -/
theorem bulletMetadata_bulletLines {settings : List (List Char × List Char)}
    (h : ∀ s ∈ settings, IsName s.1 ∧ IsValue s.2) :
    bulletMetadata ((settings.map fun s => bulletLine s.1 s.2) ++ [[]]) =
      SortedMap.ofList (settings.map fun s => setting s.1 s.2) := by
  have hread : (settings.map fun s => bulletLine s.1 s.2).filterMap bullet? =
      settings.map fun s => setting s.1 s.2 := by
    induction settings with
    | nil => rfl
    | cons s rest ih =>
        obtain ⟨⟨hname, hvalue⟩, hrest⟩ := List.forall_mem_cons.mp h
        rw [List.map_cons, List.filterMap_cons_some (bullet?_bulletLine hname hvalue), ih hrest,
          List.map_cons]
  rw [bulletMetadata, List.filterMap_append, hread]
  exact congrArg SortedMap.ofList (List.append_nil _)

/-! ### Categories -/

/-- Categories with commas between them. -/
def categoryList (categories : List Category) : List Char :=
  [',', ' '].intercalate (categories.map (·.name.toList))

theorem name_ne_nil (c : Category) : c.name.toList ≠ [] := by
  cases c <;> decide

theorem isValue_name (c : Category) : IsValue c.name.toList := by
  cases c <;> decide

theorem isValue_categoryList (categories : List Category) : IsValue (categoryList categories) := by
  rw [categoryList]
  induction categories with
  | nil => exact ⟨nofun, nofun⟩
  | cons first rest ih =>
      cases rest with
      | nil => simpa using isValue_name first
      | cons second rest =>
          rw [List.map_cons, List.map_cons, List.intercalate_cons_cons]
          obtain ⟨c, hc⟩ := List.exists_mem_of_ne_nil _ (name_ne_nil second)
          exact Text.Ends.append (isValue_name first) ih (name_ne_nil first)
            (List.ne_nil_of_mem (Text.mem_intercalate List.mem_cons_self hc)) _

theorem unbroken_categoryList (categories : List Category) :
    Text.Unbroken (categoryList categories) := by
  have hcomma : Text.Unbroken [',', ' '] := by decide
  have hname : ∀ category : Category, Text.Unbroken category.name.toList := by
    intro category
    cases category <;> decide
  refine Text.unbroken_of_forall fun c hc => ?_
  rcases Text.mem_or_exists_of_mem_intercalate hc with hbetween | ⟨part, hpart, hmem⟩
  · exact hcomma.of_mem hbetween
  · obtain ⟨category, -, rfl⟩ := List.mem_map.mp hpart
    exact (hname category).of_mem hmem

/-- The space after a comma may as well be taken for a part of what follows. -/
theorem intercalate_comma_space (first : List Char) (rest : List (List Char)) :
    [',', ' '].intercalate (first :: rest) = [','].intercalate (first :: rest.map (' ' :: ·)) := by
  induction rest generalizing first with
  | nil => rfl
  | cons second rest ih =>
      rw [List.map_cons, List.intercalate_cons_cons, List.intercalate_cons_cons, ih]
      cases rest with
      | nil => simp
      | cons third rest => simp [List.intercalate_cons_cons]

theorem comma_not_mem_name (c : Category) : ',' ∉ c.name.toList := by
  cases c <;> decide

theorem trim_name (c : Category) : Text.trim c.name.toList = c.name.toList := by
  cases c <;> decide

/-- The parts of a list of categories are their names. -/
theorem map_trim_segments_categoryList {categories : List Category} (h : categories ≠ []) :
    (Text.segments ',' (categoryList categories)).map Text.trim =
      categories.map (·.name.toList) := by
  obtain ⟨first, rest, rfl⟩ := List.exists_cons_of_ne_nil h
  rw [categoryList, List.map_cons, intercalate_comma_space, Text.segments_intercalate]
  · rw [List.map_cons, List.map_map, List.map_map, trim_name]
    refine congrArg _ (List.map_congr_left fun c _ => ?_)
    exact (Text.trim_cons rfl _).trans (trim_name c)
  · exact List.cons_ne_nil _ _
  · intro part hpart
    rcases List.mem_cons.mp hpart with rfl | hrest
    · exact comma_not_mem_name first
    · obtain ⟨name, hname, rfl⟩ := List.mem_map.mp hrest
      obtain ⟨c, -, rfl⟩ := List.mem_map.mp hname
      rw [List.mem_cons, not_or]
      exact ⟨by decide, comma_not_mem_name c⟩

theorem collectCategories_names {found categories : List Category}
    (h : (found ++ categories).Nodup) :
    collectCategories found (categories.map (·.name.toList)) = .ok (found ++ categories) := by
  induction categories generalizing found with
  | nil => rw [List.append_nil]; rfl
  | cons c rest ih =>
      have hnew : found.contains c = false := by
        rw [List.contains_eq_mem, decide_eq_false_iff_not]
        exact fun hfound => (List.nodup_append.mp h).2.2 c hfound c List.mem_cons_self rfl
      rw [List.map_cons, collectCategories, Category.parse_name]
      simp only [bind, Except.bind, hnew]
      rw [if_neg Bool.noConfusion, ih (by simpa using h), List.append_assoc, List.singleton_append]

/-- **Written categories are read back.** -/
theorem parseCategories_categoryList {categories : List Category} (hne : categories ≠ [])
    (hnodup : categories.Nodup) :
    parseCategories (categoryList categories) = .ok categories := by
  have hfilter : (categories.map (·.name.toList)).filter (fun part => !part.isEmpty) =
      categories.map (·.name.toList) := by
    refine List.filter_eq_self.mpr fun part hpart => ?_
    obtain ⟨c, -, rfl⟩ := List.mem_map.mp hpart
    simpa using name_ne_nil c
  rw [parseCategories, map_trim_segments_categoryList hne, hfilter,
    collectCategories_names (by simpa using hnodup), List.nil_append]
  simp only [bind, Except.bind]
  rw [if_neg (by simpa using hne)]
  rfl

end Rulebook.Document
