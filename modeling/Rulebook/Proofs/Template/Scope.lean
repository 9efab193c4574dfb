/-
**What a template sees lacks what its context lacks.**

A template looks up values in its context, shows them, and builds the scopes of its loops from them.
Nothing of this brings in a character from outside of the context, ASCII characters apart.  So a
context that lacks the character which stands for a brace gives only scopes that lack it, and only
values whose text lacks it.  A context without braces gives only values whose text has no other
braces than those around objects.

Main results:

* `Rulebook.Template.lacks_of_lookUp` — a value that is looked up lacks what the context lacks;
* `Rulebook.Template.not_mem_display` — so does its text;
* `Rulebook.Template.objectBraces_displayOption` — the braces in the text of a value are those of
  objects;
* `Rulebook.Template.lacks_of_mem_loopScopes` — and so do the scopes of a loop.
-/

import Rulebook.Proofs.Json.Lacking
import Rulebook.Template.Scope

set_option autoImplicit false

namespace Rulebook.Template

open Json (Lacks LacksItems LacksFields lacksItems_iff lacksFields_iff)

variable {c : Char}

/-! ### Looking up -/

theorem lacks_of_get? {fields : Fields} (h : LacksFields c fields) {key : String} {value : Json}
    (hget : Fields.get? fields key = some value) : value.Lacks c := by
  induction fields with
  | nil => cases hget
  | cons field rest ih =>
      rw [Fields.get?_cons] at hget
      split at hget
      · cases hget
        exact h.1.2
      · exact ih h.2 hget

theorem lacks_of_select {context value : Json} (h : context.Lacks c) {name : List Char}
    (hselect : select context name = some value) : value.Lacks c := by
  cases context with
  | object fields => exact lacks_of_get? h hselect
  | array items =>
      obtain ⟨i, -, hitem⟩ := Option.bind_eq_some_iff.mp hselect
      exact lacksItems_iff.mp h value (List.mem_of_getElem? hitem)
  | null => cases hselect
  | bool b => cases hselect
  | number n => cases hselect
  | string s => cases hselect

theorem lacks_of_selectAll {names : List (List Char)} {context value : Json} (h : context.Lacks c)
    (hselect : selectAll context names = some value) : value.Lacks c := by
  induction names generalizing context with
  | nil =>
      cases hselect
      exact h
  | cons name rest ih =>
      obtain ⟨inner, hinner, hrest⟩ := Option.bind_eq_some_iff.mp hselect
      exact ih (lacks_of_select h hinner) hrest

theorem lacks_of_resolve {context value : Json} (h : context.Lacks c) {path : List Char}
    (hresolve : resolve context path = some value) : value.Lacks c :=
  lacks_of_selectAll h hresolve

/-- **A value that is looked up lacks what the context lacks.** -/
theorem lacks_of_lookUp {context value : Json} (h : context.Lacks c) {path : List Char}
    (hlook : lookUp context path = some value) : value.Lacks c := by
  simp only [lookUp] at hlook
  split at hlook
  · rename_i parent last _
    split at hlook
    · split at hlook
      · cases hlook
        trivial
      · rename_i other _ hother
        have hlacks := lacks_of_resolve h hother
        cases other with
        | object fields => exact lacks_of_get? hlacks hlook
        | array items => cases hlook
        | null => cases hlook
        | bool b => cases hlook
        | number n => cases hlook
        | string s => cases hlook
      · cases hlook
    · exact lacks_of_resolve h hlook
  · exact lacks_of_resolve h hlook

/-! ### Showing -/

mutual

/-- **The text of a value lacks what the value lacks**, unless it is an ASCII character. -/
theorem not_mem_display (hc : 128 ≤ c.toNat) : ∀ value : Json, value.Lacks c → c ∉ display value
  | .null, _ => List.not_mem_nil
  | .bool b, h => by
      unfold display
      exact Json.not_mem_compact hc (.bool b) h
  | .number n, _ => n.belowBraces_text.not_mem (by omega)
  | .string s, h => h
  | .array items, h => by
      unfold display
      exact not_mem_displayItems hc items h
  | .object fields, h => by
      unfold display
      exact Json.not_mem_compact hc (.object fields) h

theorem not_mem_displayItems (hc : 128 ≤ c.toNat) :
    ∀ items : List Json, LacksItems c items → c ∉ displayItems items
  | [], _ => List.not_mem_nil
  | [item], h => not_mem_display hc item h.1
  | item :: second :: rest, h => by
      have hitem := not_mem_display hc item h.1
      have hrest := not_mem_displayItems hc (second :: rest) h.2
      have hcomma : c ≠ ',' := by rintro rfl; exact absurd hc (by decide)
      have hblank : c ≠ ' ' := by rintro rfl; exact absurd hc (by decide)
      simp [displayItems, hitem, hrest, hcomma, hblank]

end

theorem not_mem_displayOption (hc : 128 ≤ c.toNat) {context : Json} (h : context.Lacks c)
    (path : List Char) : c ∉ displayOption (lookUp context path) := by
  cases hlook : lookUp context path with
  | none => exact List.not_mem_nil
  | some value => exact not_mem_display hc value (lacks_of_lookUp h hlook)

mutual

/-- **The braces in the text of a value without braces** are those of objects. -/
theorem objectBraces_display :
    ∀ value : Json, value.Lacks '{' → Json.ObjectBraces (display value)
  | .null, _ => trivial
  | .bool b, h => by
      unfold display
      exact Json.objectBraces_compact (.bool b) h
  | .number n, _ => Json.objectBraces_of_not_mem (n.belowBraces_text.not_mem (by decide))
  | .string s, h => Json.objectBraces_of_not_mem h
  | .array items, h => by
      unfold display
      exact objectBraces_displayItems items h
  | .object fields, h => by
      unfold display
      exact Json.objectBraces_compact (.object fields) h

theorem objectBraces_displayItems :
    ∀ items : List Json, LacksItems '{' items → Json.ObjectBraces (displayItems items)
  | [], _ => trivial
  | [item], h => objectBraces_display item h.1
  | item :: second :: rest, h => by
      have hrest := objectBraces_displayItems (second :: rest) h.2
      have hblank : Json.ObjectBraces (' ' :: displayItems (second :: rest)) :=
        hrest.cons (by decide)
      exact (objectBraces_display item h.1).append (hblank.cons (by decide))

end

theorem objectBraces_displayOption {context : Json} (h : context.Lacks '{')
    (path : List Char) : Json.ObjectBraces (displayOption (lookUp context path)) := by
  cases hlook : lookUp context path with
  | none => trivial
  | some value => exact objectBraces_display value (lacks_of_lookUp h hlook)

/-! ### Loops -/

theorem lacksFields_set {fields : Fields} (h : LacksFields c fields) {key : String} {value : Json}
    (hkey : c ∉ key.toList) (hvalue : value.Lacks c) :
    LacksFields c (Fields.set key value fields) := by
  induction fields with
  | nil => exact ⟨⟨hkey, hvalue⟩, trivial⟩
  | cons field rest ih =>
      rw [Fields.set]
      split
      · exact ⟨⟨hkey, hvalue⟩, h.2⟩
      · exact ⟨h.1, ih h.2⟩

theorem lacksFields_setAll {fields new : Fields} (h : LacksFields c fields)
    (hnew : LacksFields c new) : LacksFields c (Fields.setAll fields new) := by
  induction new generalizing fields with
  | nil => exact h
  | cons field rest ih => exact ih (lacksFields_set h hnew.1.1 hnew.1.2) hnew.2

theorem lacksFields_fieldsOf {value : Json} (h : value.Lacks c) :
    LacksFields c (fieldsOf value) := by
  cases value with
  | object fields => exact h
  | array items => trivial
  | null => trivial
  | bool b => trivial
  | number n => trivial
  | string s => trivial

theorem lacks_itemScope (hc : 123 ≤ c.toNat) {parent item : Json} {name : String}
    (index count : Nat) (hparent : parent.Lacks c) (hitem : item.Lacks c)
    (hname : c ∉ name.toList) :
    (itemScope parent name item index count).Lacks c := by
  -- The names that a loop adds have no braces, but for the one that its path ends with.
  have hkeys : ∀ key ∈ ["this", "@index", "@first", "@last"], c ∉ key.toList := by
    intro key hkey
    have hbelow : ∀ key ∈ ["this", "@index", "@first", "@last"],
        Text.BelowBraces key.toList := by
      decide +kernel
    exact (hbelow key hkey).not_mem hc
  have hnamed : LacksFields c (Fields.set "this" item (Fields.set name item (fieldsOf parent))) :=
    lacksFields_set (lacksFields_set (lacksFields_fieldsOf hparent) hname hitem)
      (hkeys "this" (by simp)) hitem
  have hindex : Lacks c (Json.ofNat index) := trivial
  have hfirst : Lacks c (.bool (index == 0)) := trivial
  have hlast : Lacks c (.bool (index + 1 == count)) := trivial
  have hfields := lacksFields_setAll hnamed (lacksFields_fieldsOf hitem)
  exact lacksFields_set (lacksFields_set (lacksFields_set hfields
    (hkeys "@index" (by simp)) hindex) (hkeys "@first" (by simp)) hfirst)
    (hkeys "@last" (by simp)) hlast

theorem lacks_of_mem_loopItems {context item : Json} (h : context.Lacks c) {path : List Char}
    (hitem : item ∈ loopItems context path) : item.Lacks c := by
  unfold loopItems at hitem
  split at hitem
  · rename_i items hresolve
    exact lacksItems_iff.mp (lacks_of_resolve h hresolve) item hitem
  · cases hitem

/-- **The scopes of a loop lack what the context and the path of the loop lack.** -/
theorem lacks_of_mem_loopScopes (hc : 123 ≤ c.toNat) {context scope : Json} (h : context.Lacks c)
    {path : List Char} (hpath : c ∉ path) (hscope : scope ∈ loopScopes context path) :
    scope.Lacks c := by
  simp only [loopScopes] at hscope
  obtain ⟨i, hi, rfl⟩ := List.mem_mapIdx.mp hscope
  refine lacks_itemScope hc _ _ h (lacks_of_mem_loopItems h (List.getElem_mem hi)) ?_
  rw [String.toList_ofList, Text.lastSegment, List.mem_reverse]
  intro hmem
  exact hpath (List.mem_reverse.mp ((List.takeWhile_sublist _).subset hmem))

end Rulebook.Template
