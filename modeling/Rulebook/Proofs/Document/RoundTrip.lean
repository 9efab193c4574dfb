/-
**Reading a rule that was written.**

The document of a rule is read section by section, and each part of the rule is found where it was
written: the settings in the list items, the description and the rationale in their sections, and
the examples, one in each section of the third level.  So the document of a rule that can be written
is read as this rule.

Main results:

* `Rulebook.Document.settingsOf_writtenSections` — the settings are found again;
* `Rulebook.Document.examples_writtenSections` — and so are the examples, in order;
* `Rulebook.Document.parse_write` — **what was written is read**.
-/

import Rulebook.Proofs.Document.Examples
import Rulebook.Proofs.Document.Layout

set_option autoImplicit false

namespace Rulebook.Document

/-! ### Examples -/

theorem verdict?_exampleHeading (verdict : Verdict) (explanation : Option String) :
    verdict? (exampleHeading verdict explanation) = some verdict := by
  cases verdict <;> cases explanation <;> rfl

theorem explanation?_exampleHeading (verdict : Verdict) {explanation : Option String}
    (h : ∀ text ∈ explanation, IsPhrase text) :
    explanation? (exampleHeading verdict explanation) = explanation := by
  cases explanation with
  | none => cases verdict <;> rfl
  | some text =>
      have hphrase := h text rfl
      have hsplit : Text.splitFirst [':']
          (headingWords (exampleHeading verdict (some text))) =
            some (verdict.title.toList, ' ' :: text.toList) := by
        cases verdict <;> rfl
      have htrim : Text.trim (' ' :: text.toList) = text.toList :=
        (Text.trim_cons rfl _).trans hphrase.trim_eq
      rw [explanation?, hsplit]
      simp only [htrim]
      split
      · exact absurd ‹_› hphrase.ne_nil
      · rw [String.ofList_toList]

theorem fenceLanguage_fenceLine {language : Option String}
    (h : ∀ text ∈ language, IsPhrase text)
    (hhead : ∀ text ∈ language, Text.Begins (fun c => c ≠ '`' ∧ c ≠ '~') text.toList) :
    (fenceLanguage (fenceLine language)).map String.ofList = language := by
  cases language with
  | none => rfl
  | some text =>
      have hphrase := h text rfl
      have hdrop : text.toList.dropWhile (fun c => c == '`' || c == '~') = text.toList := by
        refine (Text.dropWhile_eq_self_iff _ _).mpr fun c hc => ?_
        obtain ⟨htick, htilde⟩ := hhead text rfl c hc
        rw [Bool.or_eq_false_iff, beq_eq_false_iff_ne, beq_eq_false_iff_ne]
        exact ⟨htick, htilde⟩
      have htrim : Text.trim ((Text.trimStart (fenceLine (some text))).dropWhile
          fun c => c == '`' || c == '~') = text.toList := by
        change Text.trim (text.toList.dropWhile _) = _
        rw [hdrop, hphrase.trim_eq]
      rw [fenceLanguage, htrim]
      split
      · exact absurd ‹_› hphrase.ne_nil
      · rw [Option.map_some, String.ofList_toList]

/-- The section of an example is read as this example. -/
theorem sectionExamples_exampleSection (verdict : Verdict) {e : Example} (h : WritableExample e) :
    sectionExamples (exampleSection verdict e) = [e] := by
  have hfences : fences (exampleSection verdict e).body =
      [⟨fenceLanguage (fenceLine e.language), Text.segments '\n' e.code.toList⟩] :=
    fences_block (isFence_fenceLine e.language) (fun _ => isFence_of_mem_code h)
      (isFence_fenceLine none)
  have hcode : Text.unlines (Text.segments '\n' e.code.toList) = e.code.toList :=
    Text.intercalate_segments '\n' e.code.toList
  have hheading : explanation? (exampleSection verdict e).heading = e.explanation :=
    explanation?_exampleHeading verdict h.explanation
  rw [sectionExamples, hfences, hheading, List.map_singleton, Fence.code, hcode,
    fenceLanguage_fenceLine h.language h.notFence, String.ofList_toList]

/-- Of the sections of examples those with a verdict are read as the examples. -/
theorem examplesWith_map (verdict other : Verdict) {es : List Example}
    (h : ∀ e ∈ es, WritableExample e) :
    examplesWith verdict (es.map (exampleSection other)) = if other = verdict then es else [] := by
  induction es with
  | nil => simp [examplesWith]
  | cons e es ih =>
      obtain ⟨he, hes⟩ := List.forall_mem_cons.mp h
      have hread : verdict? (exampleSection other e).heading = some other :=
        verdict?_exampleHeading other e.explanation
      have hlevel : (exampleSection other e).level = 3 := rfl
      rw [List.map_cons, examplesWith_cons, ih hes, hread, hlevel,
        sectionExamples_exampleSection other he]
      by_cases hsame : other = verdict <;> simp [hsame]

/-- **The examples are found again**, in order. -/
theorem examples_writtenSections {rule : Rule} (h : Writable rule) :
    examples (⟨0, [], []⟩ :: writtenSections rule) = rule.examples := by
  have hfront : ∀ verdict, examplesWith verdict (⟨0, [], []⟩ :: frontSections rule) = [] :=
    fun _ => rfl
  have hsplit : ∀ verdict, examplesWith verdict (⟨0, [], []⟩ :: writtenSections rule) =
      (if Verdict.good = verdict then rule.examples.good else []) ++
        if Verdict.bad = verdict then rule.examples.bad else [] := by
    intro verdict
    rw [writtenSections, ← List.cons_append, examplesWith_append, hfront, examplesWith_append,
      examplesWith_map verdict .good h.good, examplesWith_map verdict .bad h.bad, List.nil_append]
  rw [examples_eq, hsplit, hsplit]
  simp

/-! ### Settings -/

/-- **The settings are found again.** -/
theorem settingsOf_writtenSections {rule : Rule} (h : Writable rule) :
    settingsOf (⟨0, [], []⟩ :: writtenSections rule) =
      .ok (SortedMap.ofList ((writtenSettings rule).map fun s => setting s.1 s.2)) := by
  have hfences :
      fences ((writtenSettings rule).map (fun s => bulletLine s.1 s.2) ++ [[]]) = [] := by
    refine fences_eq_nil fun line hline => ?_
    rcases List.mem_append.mp hline with hsetting | hempty
    · obtain ⟨s, -, rfl⟩ := List.mem_map.mp hsetting
      exact (isText_bulletLine s.1 s.2).2
    · rw [List.mem_singleton.mp hempty]
      rfl
  change metadata ⟨2, "Metadata".toList,
    (writtenSettings rule).map (fun s => bulletLine s.1 s.2) ++ [[]]⟩ = _
  rw [metadata, hfences, bulletMetadata_bulletLines fun s hs =>
    ⟨(isName_of_mem_writtenSettings hs).1, (isValue_of_mem_writtenSettings h hs).1⟩]

/-- The settings with their names as they are looked up. -/
theorem map_setting_writtenSettings (rule : Rule) :
    (writtenSettings rule).map (fun s => setting s.1 s.2) =
      [("id", rule.id), ("category", String.ofList (categoryList rule.category)),
        ("severity", rule.severity.name), ("enabled", flagName rule.enabled)] ++
      rule.standard.toList.map fun standard => ("standard", standard) := by
  have hid : String.ofList (Text.toLower "ID".toList) = "id" := by decide
  have hcategory : String.ofList (Text.toLower "Category".toList) = "category" := by decide
  have hseverity : String.ofList (Text.toLower "Severity".toList) = "severity" := by decide
  have henabled : String.ofList (Text.toLower "Enabled".toList) = "enabled" := by decide
  have hstandard : String.ofList (Text.toLower "Standard".toList) = "standard" := by decide
  simp only [writtenSettings, List.map_append, List.map_cons, List.map_nil, List.map_map, setting,
    hid, hcategory, hseverity, henabled, String.ofList_toList]
  refine congrArg _ (List.map_congr_left fun standard _ => ?_)
  rw [Function.comp_apply, hstandard, String.ofList_toList]

/-- What is found under a name. -/
theorem get?_writtenSettings (rule : Rule) (name : String) :
    (SortedMap.ofList ((writtenSettings rule).map fun s => setting s.1 s.2)).get? name =
      if name = "standard" then rule.standard
      else if name = "enabled" then some (flagName rule.enabled)
      else if name = "severity" then some rule.severity.name
      else if name = "category" then some (String.ofList (categoryList rule.category))
      else if name = "id" then some rule.id
      else none := by
  rw [map_setting_writtenSettings, SortedMap.ofList, List.foldl_append]
  cases rule.standard with
  | none =>
      -- Nothing else has the name of the standard.
      simp only [Option.toList_none, List.map_nil, List.foldl_cons, List.foldl_nil,
        SortedMap.get?_insert, SortedMap.get?_empty]
      by_cases hname : name = "standard"
      · simp [hname]
      · rw [if_neg hname]
  | some standard =>
      simp only [Option.toList_some, List.map_cons, List.map_nil, List.foldl_cons, List.foldl_nil,
        SortedMap.get?_insert, SortedMap.get?_empty]

/-! ### Texts -/

theorem trim_paragraphs {text : String} (h : IsProse text) :
    Text.trim (Text.unlines (paragraphs text)) = text.toList := by
  rw [paragraphs, Text.unlines, Text.intercalate_append_nil _ (Text.segments_ne_nil '\n' _),
    Text.intercalate_segments, Text.trim_append_singleton rfl, h.trim_eq]

/-- A text is found again in its section, or there is nothing of it. -/
theorem sectionText?_of_find? {ss : List Section} {name text : String} {heading : List Char}
    (hfind : ss.find? (fun s => s.isNamed 2 name) = some ⟨2, heading, paragraphs text⟩)
    (h : IsProse text) : (sectionText? ss name).getD "" = text := by
  rw [sectionText?, hfind]
  simp only [Section.text, trim_paragraphs h]
  split
  · rename_i hempty
    rw [Option.getD_none, ← String.ofList_toList (s := text), hempty]
  · rw [Option.getD_some, String.ofList_toList]

/-- The name is found again. -/
theorem title?_writtenSections {rule : Rule} (h : IsPhrase rule.name) :
    title? (⟨0, [], []⟩ :: writtenSections rule) = some rule.name := by
  have htitle : ruleTitle ("Rule:".toList ++ [' '] ++ rule.name.toList) = rule.name.toList := by
    change Text.trim (' ' :: rule.name.toList) = _
    rw [Text.trim_cons rfl, h.trim_eq]
  have hfind : (⟨0, [], []⟩ :: writtenSections rule).find? (fun s => s.level == 1) =
      some ⟨1, "Rule:".toList ++ [' '] ++ rule.name.toList, [[]]⟩ := rfl
  rw [title?, hfind]
  simp only [htitle]
  split
  · exact absurd ‹_› h.ne_nil
  · rw [String.ofList_toList]

/-! ### Rules -/

/-- **What was written is read.** -/
theorem parse_write {rule : Rule} (h : Writable rule) : parse (write rule) = .ok rule := by
  -- All that matters of the settings is what is found under each name.
  have hsettings := settingsOf_writtenSections h
  have hget := get?_writtenSettings rule
  generalize SortedMap.ofList ((writtenSettings rule).map fun s => setting s.1 s.2) = settings
    at hsettings hget
  have hid : required settings "id" = .ok rule.id := by
    simp [required, hget]
  have hcategory : required settings "category" =
      .ok (String.ofList (categoryList rule.category)) := by
    simp [required, hget]
  have hseverity : required settings "severity" = .ok rule.severity.name := by
    simp [required, hget]
  have henabled : enabledIn settings = .ok rule.enabled := by
    rw [enabledIn, hget]
    cases rule.enabled <;> rfl
  have hstandard : settings.get? "standard" = rule.standard := by
    simp [hget]
  have hnone : settings.get? "description" = none ∧ settings.get? "rationale" = none := by
    simp [hget]
  have hdescription : (sectionText? (⟨0, [], []⟩ :: writtenSections rule) "description").getD "" =
      rule.description := sectionText?_of_find? rfl h.description
  have hrationale : (sectionText? (⟨0, [], []⟩ :: writtenSections rule) "rationale").getD "" =
      rule.rationale := sectionText?_of_find? rfl h.rationale
  rw [parse, sections_write h, ruleOfSections, hsettings]
  simp only [bind, Except.bind, hid, h.id, hcategory, String.toList_ofList,
    parseCategories_categoryList h.category_ne_nil h.category_nodup, hseverity, Severity.parse_name,
    henabled, hnone.1, hnone.2, Option.or_none, hdescription, hrationale, hstandard,
    title?_writtenSections h.name, examples_writtenSections h, Option.some_or, Option.getD_some]
  rw [← h.source]
  rfl

/-- A rule with lines that look like headings, in the description and in the code. -/
def memorySafety : Rule where
  id := "universal-memory_safety"
  name := "Memory Safety"
  description := "Free once.\n\n#1 reason for crashes: free(p);"
  rationale := ""
  category := [.universal, .embedded]
  severity := .error
  enabled := false
  examples := ⟨[⟨some "c", "# not a heading\nfree(p);\n", some "freed: once"⟩], [⟨none, "", none⟩]⟩
  standard := some "C11"
  source := none

/-- Its document, and that it is read. -/
theorem memorySafety_read :
    Writable memorySafety ∧
      write memorySafety = Text.written (["# Rule: Memory Safety", "",
        "## Metadata", "- **ID**: universal-memory_safety", "- **Category**: universal, embedded",
        "- **Severity**: ERROR", "- **Enabled**: false", "- **Standard**: C11", "",
        "## Description", "Free once.", "", "#1 reason for crashes: free(p);", "",
        "## Rationale", "", "", "## Examples", "",
        "### Good Example: freed: once", "```c", "# not a heading", "free(p);", "",
        "```", "", "### Bad Example", "```", "", "```", ""].map
          String.toList) ∧
      parse (write memorySafety) = .ok memorySafety := by
  have h : Writable memorySafety :=
    { id := by decide
      name := by decide
      category_ne_nil := by decide
      category_nodup := by decide
      description := by decide
      rationale := by decide
      standard := by decide
      noTicks := by decide
      good := by decide
      bad := by decide
      source := rfl }
  exact ⟨h, congrArg Text.written (by decide +kernel), parse_write h⟩

end Rulebook.Document
