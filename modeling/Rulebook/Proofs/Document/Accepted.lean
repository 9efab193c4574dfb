/-
**What an accepted document gives.**

A rule document may have its settings in a list or in a fenced block, with names in any case and as
often as it likes, and it may leave out its title.  It is refused if it has no id that is one, no
categories or no severity, so an accepted rule has all of these.  Its examples are the fenced blocks
of the document, as far as these are closed.

The title is not refused but replaced: if the heading gives none, it is the setting `name`, and if
there is none either, the id.  A heading is passed over if it is empty; a setting is not.  So of all
accepted documents those without a title in a heading and with an empty `name` give a rule without a
title, and no others.

Main definitions:

* `Rulebook.Document.GivesRule` — what an accepted rule has from the settings and the sections.

Main results:

* `Rulebook.Document.nodup_of_parseCategories` — categories are read once each;
* `Rulebook.Document.name_eq_empty_iff` — which rules are without a title;
* `Rulebook.Document.usable_of_parse` — **what an accepted document gives**;
* `Rulebook.Document.not_always_titled` — a document that gives a rule without a title.
-/

import Mathlib.Data.List.Nodup
import Rulebook.Proofs.Document.Examples
import Rulebook.Proofs.Document.Fencing
import Rulebook.Proofs.Json.Record

set_option autoImplicit false

namespace Rulebook.Document

/-! ### What a rule is made of -/

/-- What an accepted rule has from the settings and from the sections. -/
structure GivesRule (settings : Metadata) (ss : List Section) (rule : Rule) : Prop where
  /-- The id is a setting. -/
  id_eq : settings.get? "id" = some rule.id
  /-- It has the form of an id. -/
  valid : Rule.validateId rule.id = .ok ()
  /-- The categories are read from a setting. -/
  categories : ∃ raw, parseCategories raw = .ok rule.category
  /-- The title is that of a heading, or a setting, or the id. -/
  name_eq : rule.name = ((title? ss).or (settings.get? "name")).getD rule.id
  /-- The examples are those of the sections. -/
  examples_eq : rule.examples = examples ss

theorem get?_of_required {settings : Metadata} {field value : String}
    (h : required settings field = .ok value) : settings.get? field = some value := by
  rw [required] at h
  split at h
  · rename_i found hget
    rw [hget, Except.ok.inj h]
  · cases h

theorem givesRule_of_ruleOfSections {ss : List Section} {rule : Rule}
    (h : ruleOfSections ss = .ok rule) :
    ∃ settings, settingsOf ss = .ok settings ∧ GivesRule settings ss rule := by
  rw [ruleOfSections] at h
  obtain ⟨settings, hsettings, h⟩ := exists_of_bind_eq_ok h
  obtain ⟨id, hid, h⟩ := exists_of_bind_eq_ok h
  obtain ⟨⟨⟩, hvalid, h⟩ := exists_of_bind_eq_ok h
  obtain ⟨raw, -, h⟩ := exists_of_bind_eq_ok h
  obtain ⟨category, hcategory, h⟩ := exists_of_bind_eq_ok h
  obtain ⟨severityName, -, h⟩ := exists_of_bind_eq_ok h
  obtain ⟨severity, -, h⟩ := exists_of_bind_eq_ok h
  obtain ⟨enabled, -, h⟩ := exists_of_bind_eq_ok h
  cases h
  exact ⟨settings, hsettings,
    { id_eq := get?_of_required hid
      valid := hvalid
      categories := ⟨raw.toList, hcategory⟩
      name_eq := rfl
      examples_eq := rfl }⟩

/-! ### Ids -/

/-- The topic of an id is a segment of it. -/
theorem isIdSegment_topic {rule : Rule} (h : Rule.validateId rule.id = .ok ()) :
    Rule.isIdSegment rule.topic = true :=
  ((Rule.validateId_eq_ok_iff rule.id).mp h).2 _ (Text.lastSegment_mem_segments '-' _)

theorem topic_ne_nil {rule : Rule} (h : Rule.validateId rule.id = .ok ()) : rule.topic ≠ [] := by
  intro htopic
  have hsegment := isIdSegment_topic h
  rw [htopic] at hsegment
  exact Bool.false_ne_true hsegment

theorem hyphen_not_mem_topic (rule : Rule) : '-' ∉ rule.topic :=
  Text.not_mem_of_mem_segments (Text.lastSegment_mem_segments '-' rule.id.toList)

theorem id_ne_empty {id : String} (h : Rule.validateId id = .ok ()) : id ≠ "" := by
  rintro rfl
  exact absurd ((Rule.validateId_eq_ok_iff "").mp h) (by decide)

/-! ### Categories -/

theorem nodup_of_collectCategories {found read : List Category} {parts : List (List Char)}
    (h : collectCategories found parts = .ok read) (hfound : found.Nodup) : read.Nodup := by
  induction parts generalizing found with
  | nil =>
      cases h
      exact hfound
  | cons part rest ih =>
      obtain ⟨c, -, h⟩ := exists_of_bind_eq_ok h
      refine ih h ?_
      split
      · exact hfound
      · -- A category goes to the end only if it was not read before.
        rename_i hnew
        refine List.nodup_append.mpr ⟨hfound, List.nodup_singleton c, fun a ha b hb => ?_⟩
        rintro rfl
        exact hnew (by simpa [List.mem_singleton.mp hb] using ha)

/-- **Categories are read once each**, and there is one. -/
theorem nodup_of_parseCategories {raw : List Char} {read : List Category}
    (h : parseCategories raw = .ok read) : read ≠ [] ∧ read.Nodup := by
  obtain ⟨found, hfound, h⟩ := exists_of_bind_eq_ok h
  split at h
  · cases h
  · rename_i hne
    cases h
    exact ⟨by simpa using hne, nodup_of_collectCategories hfound List.nodup_nil⟩

/-! ### Titles -/

theorem ne_empty_of_title? {ss : List Section} {name : String} (h : title? ss = some name) :
    name ≠ "" := by
  rw [title?] at h
  split at h
  · split at h
    · cases h
    · rename_i hne
      cases h
      intro hempty
      exact hne (by simpa using congrArg String.toList hempty)
  · cases h

/-- **A rule is without a title** exactly if no heading gives one and the setting is empty. -/
theorem name_eq_empty_iff {settings : Metadata} {ss : List Section} {rule : Rule}
    (h : GivesRule settings ss rule) :
    rule.name = "" ↔ title? ss = none ∧ settings.get? "name" = some "" := by
  rw [h.name_eq]
  cases htitle : title? ss with
  | some name => simp [ne_empty_of_title? htitle]
  | none =>
      cases hname : settings.get? "name" with
      | some name => simp
      | none => simp [id_ne_empty h.valid]

/-! ### Examples -/

/-- A fence stays one whatever follows it on its line. -/
theorem isFence_append {line : Line} (h : isFence line = true) (more : List Char) :
    isFence (line ++ more) = true := by
  have hne : (line.dropWhile Text.isBlank).isEmpty ≠ true := by
    intro hempty
    rw [isFence, Text.trimStart, List.isEmpty_iff.mp hempty] at h
    exact Bool.false_ne_true h
  rw [isFence, Text.trimStart, List.dropWhile_append, if_neg hne]
  rw [isFence, Text.trimStart] at h
  split at h
  · rename_i rest hline
    rw [hline]
    rfl
  · rename_i rest hline
    rw [hline]
    rfl
  · cases h

theorem isFence_of_prefix {line text : Line} (h : line <+: text) (htext : isFence text = false) :
    isFence line = false := by
  obtain ⟨more, rfl⟩ := h
  rw [Bool.eq_false_iff] at htext ⊢
  exact fun hline => htext (isFence_append hline more)

/-- The lines of the text of a fenced block are no fences. -/
theorem isFence_of_mem_lines_code {lines : List Line} {f : Fence}
    (hlines : ∀ line ∈ lines, '\n' ∉ line) (h : IsBlock lines f) {line : Line}
    (hline : line ∈ Text.lines f.code) : isFence line = false := by
  obtain ⟨before, first, last, after, rfl, -, -, -, hcode, -⟩ := h
  -- The lines are joined and divided again, which may take a carriage return off a line.
  have hfeed : ∀ text ∈ f.lines, '\n' ∉ text := fun text htext => hlines text (by simp [htext])
  obtain ⟨text, htext, hprefix⟩ := Text.exists_prefix_of_mem_lines hfeed hline
  exact isFence_of_prefix hprefix (hcode text htext)

/-! ### Accepted documents -/

/-- **What an accepted document gives.**  The id of the rule is one, so that its topic is not empty
and has no hyphen.  There are categories, each of them once.  The code of every example stands in a
closed fenced block of the document, and none of its lines is a fence.  And there is a title, unless
no heading has one and the setting `name` is empty. -/
theorem usable_of_parse {content : List Char} {rule : Rule} (h : parse content = .ok rule) :
    Rule.validateId rule.id = .ok () ∧ rule.topic ≠ [] ∧ '-' ∉ rule.topic ∧
      rule.category ≠ [] ∧ rule.category.Nodup ∧
      (∀ e ∈ rule.examples.good ++ rule.examples.bad, ∃ f, IsBlock (Text.lines content) f ∧
        e.code = String.ofList f.code ∧ ∀ line ∈ Text.lines e.code.toList, isFence line = false) ∧
      (rule.name = "" ↔ title? (sections content) = none ∧
        ∃ settings, settingsOf (sections content) = .ok settings ∧
          settings.get? "name" = some "") := by
  obtain ⟨settings, hsettings, hgives⟩ := givesRule_of_ruleOfSections h
  obtain ⟨raw, hraw⟩ := hgives.categories
  obtain ⟨hne, hnodup⟩ := nodup_of_parseCategories hraw
  refine ⟨hgives.valid, topic_ne_nil hgives.valid, hyphen_not_mem_topic rule, hne, hnodup, ?_, ?_⟩
  · intro e he
    rw [hgives.examples_eq, examples_eq] at he
    obtain ⟨s, hs, f, hf, hcode⟩ := (List.mem_append.mp he).elim
      exists_fence_of_mem_examplesWith exists_fence_of_mem_examplesWith
    have hblock : IsBlock (Text.lines content) f := by
      rw [← mem_fences_iff, fences_lines]
      exact List.mem_flatMap.mpr ⟨s, hs, hf⟩
    refine ⟨f, hblock, hcode, fun line hline => ?_⟩
    rw [hcode, String.toList_ofList] at hline
    exact isFence_of_mem_lines_code (fun _ => Text.not_mem_of_mem_lines) hblock hline
  · rw [name_eq_empty_iff hgives]
    refine and_congr_right fun _ => ⟨fun hname => ⟨settings, hsettings, hname⟩, ?_⟩
    rintro ⟨other, hother, hname⟩
    rw [hsettings] at hother
    cases hother
    exact hname

/-- A document with an empty heading, with settings in any case and one that is given twice, and with
an example that is left open. -/
def fallbackDocument : List Char :=
  Text.written (["# Rule:", "## METADATA", "- **Id**: core-free_once",
    "* **CATEGORY:** kernel, Kernel, , systems", "- **Severity**: warn", "- **Name**:",
    "- **name**: `Free once`", "### Good Example: freed", "~~~c", "# not a heading",
    "free(p);", "~~~", "### Bad Example", "~~~", "left open"].map String.toList)

/-- The rule that it gives. -/
def fallbackRule : Rule where
  id := "core-free_once"
  name := "Free once"
  description := ""
  rationale := ""
  category := [.kernel, .systems]
  severity := .warning
  enabled := true
  examples := ⟨[⟨some "c", "# not a heading\nfree(p);", some "freed"⟩], []⟩
  standard := none
  source := none

theorem fallbackRule_usable :
    parse fallbackDocument = .ok fallbackRule ∧ fallbackRule.topic = "free_once".toList ∧
      fallbackRule.topic ≠ [] ∧ '-' ∉ fallbackRule.topic ∧ fallbackRule.category.Nodup ∧
      (∃ f, IsBlock (Text.lines fallbackDocument) f ∧
        String.ofList f.code = "# not a heading\nfree(p);") ∧
      ¬ (title? (sections fallbackDocument) = none ∧
        ∃ settings, settingsOf (sections fallbackDocument) = .ok settings ∧
          settings.get? "name" = some "") := by
  have h : parse fallbackDocument = .ok fallbackRule := by decide +kernel
  obtain ⟨-, htopic, hhyphen, -, hnodup, hexamples, hname⟩ := usable_of_parse h
  obtain ⟨f, hblock, hcode, -⟩ := hexamples _ List.mem_cons_self
  exact ⟨h, by decide, htopic, hhyphen, hnodup, ⟨f, hblock, hcode.symm⟩,
    fun hempty => absurd (hname.mpr hempty) (by decide)⟩

/-- A document with an empty name and no heading for it. -/
def untitledDocument : List Char :=
  Text.written (["## Metadata", "- **ID**: core-naming", "- **Category**: systems",
    "- **Severity**: INFO", "- **Name**:"].map String.toList)

/-- The rule that it gives. -/
def untitledRule : Rule where
  id := "core-naming"
  name := ""
  description := ""
  rationale := ""
  category := [.systems]
  severity := .info
  enabled := true
  examples := .none
  standard := none
  source := none

/-- **Not every accepted document gives a title.**  The empty setting is taken, and the id is not. -/
theorem not_always_titled :
    ¬ ∀ (content : List Char) (rule : Rule), parse content = .ok rule → rule.name ≠ "" := by
  intro h
  exact h untitledDocument untitledRule (by decide +kernel) rfl

end Rulebook.Document
