/-
**What the key of a prompt tells of what was asked for.**

A prompt is remembered under a text that joins the category, the path of the file, the name of the
function and the kind of the file by colons.  A field that is missing is joined as an empty text,
and the code around is not joined at all.  No name of a category has a colon, so that the key tells
the category; the other fields it tells only if the path and the name have no colon of their own.

Two contexts that lead to one category and have the same texts, missing ones being empty, are given
the same prompt, since a template does not tell a missing text from an empty one.  So the prompts
that a key may stand for are as many as there are ways to cut it, and texts of code to go with it.

Main definitions:

* `Rulebook.PromptContext.key` — the text under which the prompt of a context is remembered;
* `Rulebook.PromptContext.SaysSame` — contexts with the same texts.

Main results:

* `Rulebook.PromptContext.detect_eq_of_key_eq` — the key tells the category;
* `Rulebook.PromptContext.saysSame_of_key_eq` — where there are no colons, it tells all but the
  code;
* `Rulebook.Prompt.Generator.fill_congr` — contexts with the same texts are given the same prompt.
-/

import Rulebook.Proofs.Template.Absence
import Rulebook.Prompt.Generator

set_option autoImplicit false

namespace Rulebook

/-- The first separator of a text tells its two parts. -/
theorem Text.append_cons_inj {sep : Char} {s s' t t' : List Char} (hs : sep ∉ s) (hs' : sep ∉ s')
    (h : s ++ sep :: t = s' ++ sep :: t') : s = s' ∧ t = t' := by
  induction s generalizing s' with
  | nil =>
      cases s' with
      | nil => exact ⟨rfl, (List.cons.inj h).2⟩
      | cons d s' => exact absurd ((List.cons.inj h).1 ▸ List.mem_cons_self) hs'
  | cons c s ih =>
      rw [List.mem_cons, not_or] at hs
      cases s' with
      | nil => exact absurd (List.cons.inj h).1.symm hs.1
      | cons d s' =>
          rw [List.mem_cons, not_or] at hs'
          obtain ⟨rfl, hrest⟩ := List.cons.inj h
          obtain ⟨rfl, rfl⟩ := ih hs.2 hs'.2 hrest
          exact ⟨rfl, rfl⟩

namespace PromptContext

/-- Two contexts say the same: they lead to one category, and their texts are the same, a missing
one being empty. -/
structure SaysSame (a b : PromptContext) : Prop where
  /-- They lead to one category. -/
  detect : a.detect = b.detect
  /-- The paths of the files are the same. -/
  filePath : a.filePath.getD "" = b.filePath.getD ""
  /-- The names of the functions are the same. -/
  functionName : a.functionName.getD "" = b.functionName.getD ""
  /-- The kinds of the files are the same. -/
  fileType : a.fileType.getD "" = b.fileType.getD ""
  /-- The code around is the same. -/
  codeContext : a.codeContext.getD "" = b.codeContext.getD ""

/-! ### Keys -/

/-- The text under which the prompt of a context is remembered. -/
def key (context : PromptContext) : String := Prompt.cacheKey context.detect context

theorem toList_key (context : PromptContext) :
    context.key.toList = context.detect.name.toList ++ ':' ::
      ((context.filePath.getD "").toList ++ ':' ::
        ((context.functionName.getD "").toList ++ ':' :: (context.fileType.getD "").toList)) := by
  simp [key, Prompt.cacheKey]

/-- What is behind the first colon of a key, and what is before it. -/
theorem split_of_key_eq {a b : PromptContext} (h : a.key = b.key) :
    a.detect = b.detect ∧
      (a.filePath.getD "").toList ++ ':' ::
          ((a.functionName.getD "").toList ++ ':' :: (a.fileType.getD "").toList) =
        (b.filePath.getD "").toList ++ ':' ::
          ((b.functionName.getD "").toList ++ ':' :: (b.fileType.getD "").toList) := by
  have hkeys := congrArg String.toList h
  rw [toList_key, toList_key] at hkeys
  obtain ⟨hname, hrest⟩ := Text.append_cons_inj a.detect.colon_not_mem_name
    b.detect.colon_not_mem_name hkeys
  exact ⟨Category.name_injective (String.toList_inj.mp hname), hrest⟩

/-- **The key tells the category.** -/
theorem detect_eq_of_key_eq {a b : PromptContext} (h : a.key = b.key) : a.detect = b.detect :=
  (split_of_key_eq h).1

/-- No colon is in the path of the file or in the name of the function. -/
def ColonFree (context : PromptContext) : Prop :=
  ':' ∉ (context.filePath.getD "").toList ∧ ':' ∉ (context.functionName.getD "").toList

/-- **Where there are no colons, the key tells all but the code.** -/
theorem saysSame_of_key_eq {a b : PromptContext} (h : a.key = b.key) (ha : a.ColonFree)
    (hb : b.ColonFree) (hcode : a.codeContext.getD "" = b.codeContext.getD "") :
    a.SaysSame b := by
  obtain ⟨hdetect, hrest⟩ := split_of_key_eq h
  obtain ⟨hpath, hrest⟩ := Text.append_cons_inj ha.1 hb.1 hrest
  obtain ⟨hname, htype⟩ := Text.append_cons_inj ha.2 hb.2 hrest
  exact ⟨hdetect, String.toList_inj.mp hpath, String.toList_inj.mp hname,
    String.toList_inj.mp htype, hcode⟩

end PromptContext

namespace Prompt

/-! ### The values that a template is filled from -/

/-- The names of the fields that come from the context. -/
def contextNames : List String := ["file_path", "function_name", "file_type", "code_context"]

theorem get?_givenField (name : String) (value : Option String) (key : String) :
    Fields.get? (givenField name value) key =
      if name = key then value.map .string else none := by
  cases value <;> simp [givenField, Fields.get?_cons]

/-- A text that may be missing, as a template sees it. -/
theorem sameText_of_getD_eq {name : List Char} (hname : Template.isBareLiteral name = false)
    {x y : Option String} (h : x.getD "" = y.getD "") :
    Template.SameText name (x.map .string) (y.map .string) := by
  cases x with
  | none =>
      cases y with
      | none => exact Or.inl rfl
      | some t =>
          obtain rfl : "" = t := h
          exact Or.inr ⟨hname, Or.inl rfl, Or.inr rfl⟩
  | some s =>
      cases y with
      | none =>
          obtain rfl : s = "" := h
          exact Or.inr ⟨hname, Or.inr rfl, Or.inl rfl⟩
      | some t =>
          obtain rfl : s = t := h
          exact Or.inl rfl

/-- Contexts that say the same give the same fields, but for empty texts. -/
theorem sameText_contextFields {a b : PromptContext} (h : a.SaysSame b) (key : String) :
    Template.SameText key.toList (Fields.get? (contextFields a) key)
      (Fields.get? (contextFields b) key) := by
  simp only [contextFields, Fields.get?_append, get?_givenField]
  by_cases hpath : "file_path" = key
  · subst hpath
    simpa using sameText_of_getD_eq (by decide) h.filePath
  by_cases hname : "function_name" = key
  · subst hname
    simpa using sameText_of_getD_eq (by decide) h.functionName
  by_cases htype : "file_type" = key
  · subst htype
    simpa using sameText_of_getD_eq (by decide) h.fileType
  by_cases hcode : "code_context" = key
  · subst hcode
    simpa using sameText_of_getD_eq (by decide) h.codeContext
  · simp [hpath, hname, htype, hcode, Template.SameText]

theorem get?_contextFields_of_not_mem (context : PromptContext) {key : String}
    (h : key ∉ contextNames) : Fields.get? (contextFields context) key = none := by
  simp only [contextNames, List.mem_cons, List.not_mem_nil, or_false, not_or] at h
  obtain ⟨hpath, hname, htype, hcode⟩ := h
  simp [contextFields, Fields.get?_append, get?_givenField, Ne.symm hpath, Ne.symm hname,
    Ne.symm htype, Ne.symm hcode]

/-- The other fields have other names. -/
theorem get?_conflictFields_of_mem (rules : List Rule) {key : String} (h : key ∈ contextNames) :
    Fields.get? (conflictFields rules) key = none := by
  simp only [contextNames, List.mem_cons, List.not_mem_nil, or_false] at h
  rcases h with rfl | rfl | rfl | rfl
  all_goals simp [conflictFields, Fields.get?_cons]

/-- **Contexts that say the same give values that no template tells apart.** -/
theorem alike_data (standard : String) (withConflicts : Bool) (category : Category)
    (rules : List Rule) {a b : PromptContext} (h : a.SaysSame b) :
    Template.Alike (data standard withConflicts category a rules)
      (data standard withConflicts category b rules) := by
  refine .intro fun key => ?_
  simp only [Fields.get?_append]
  -- The names from the context come nowhere else, so no other field is seen in their place.
  by_cases hkey : key ∈ contextNames
  · have hback : Fields.get? (if withConflicts then conflictFields rules else []) key = none := by
      split
      · exact get?_conflictFields_of_mem rules hkey
      · rfl
    have hfront : Fields.get? [("category", .string category.name),
        ("c_standard", .string standard), ("rule_count", Json.ofNat rules.length),
        ("rules", .array (rules.map ruleData)),
        ("examples", .array ((shownExamples rules).map exampleData))] key = none := by
      simp only [contextNames, List.mem_cons, List.not_mem_nil, or_false] at hkey
      rcases hkey with rfl | rfl | rfl | rfl
      all_goals simp [Fields.get?_cons]
    rw [hfront, hback, Option.none_or, Option.none_or, Option.or_none, Option.or_none]
    exact sameText_contextFields h key
  · rw [get?_contextFields_of_not_mem a hkey, get?_contextFields_of_not_mem b hkey]
    exact Or.inl rfl

/-- **Contexts that say the same are given the same prompt.** -/
theorem Generator.fill_congr (g : Generator) {a b : PromptContext} (h : a.SaysSame b)
    (template : LoadedTemplate) :
    g.fill a.detect a template = g.fill b.detect b template := by
  have halike := alike_data g.languageStandard g.withConflicts b.detect
    (g.activeRules b.detect) h
  rw [fill, fill, h.detect, halike.render]

end Prompt

end Rulebook
