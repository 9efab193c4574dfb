/-
**The layout of a rule document.**

A rule is written as a document with its title, its settings as list items, its description and its
rationale, and a section for each of its examples with the code in a fenced block.  Not every rule
can be written: its texts must not hold what would be taken for a heading or for a fence, nor have
blanks around them, since these are not kept.

Main definitions:

* `Rulebook.Document.write` — the document of a rule, which is made of
  `Rulebook.Document.writtenSections`;
* `Rulebook.Document.Writable` — the rules that can be written.

Main results:

* `Rulebook.Document.sections_write` — **a written document has the sections that it was made
  of**.
-/

import Rulebook.Proofs.Document.Settings

set_option autoImplicit false

namespace Rulebook.Document

/-! ### Writing a rule -/

/-- The lines of a text, with an empty line after them. -/
def paragraphs (text : String) : List Line := Text.segments '\n' text.toList ++ [[]]

/-- The name of a switch. -/
def flagName : Bool → String
  | true => "true"
  | false => "false"

/-- The settings of a rule. -/
def writtenSettings (rule : Rule) : List (List Char × List Char) :=
  [("ID".toList, rule.id.toList), ("Category".toList, categoryList rule.category),
      ("Severity".toList, rule.severity.name.toList),
      ("Enabled".toList, (flagName rule.enabled).toList)] ++
    rule.standard.toList.map fun standard => ("Standard".toList, standard.toList)

/-- The words that announce examples. -/
def Verdict.title : Verdict → String
  | .good => "Good Example"
  | .bad => "Bad Example"

/-- The heading of an example. -/
def exampleHeading (verdict : Verdict) : Option String → List Char
  | some explanation => verdict.title.toList ++ [':', ' '] ++ explanation.toList
  | none => verdict.title.toList

/-- The first line of a fenced block, and its last line where no language is named. -/
def fenceLine : Option String → Line
  | some language => ['`', '`', '`'] ++ language.toList
  | none => ['`', '`', '`']

/-- The section of an example. -/
def exampleSection (verdict : Verdict) (e : Example) : Section :=
  ⟨3, exampleHeading verdict e.explanation,
    fenceLine e.language :: (Text.segments '\n' e.code.toList ++ [fenceLine none, []])⟩

/-- The sections of a rule before its examples. -/
def frontSections (rule : Rule) : List Section :=
  [⟨1, "Rule:".toList ++ [' '] ++ rule.name.toList, [[]]⟩,
    ⟨2, "Metadata".toList, (writtenSettings rule).map (fun s => bulletLine s.1 s.2) ++ [[]]⟩,
    ⟨2, "Description".toList, paragraphs rule.description⟩,
    ⟨2, "Rationale".toList, paragraphs rule.rationale⟩,
    ⟨2, "Examples".toList, [[]]⟩]

/-- The sections of a rule. -/
def writtenSections (rule : Rule) : List Section :=
  frontSections rule ++ (rule.examples.good.map (exampleSection .good) ++
    rule.examples.bad.map (exampleSection .bad))

/-- The document of a rule. -/
def write (rule : Rule) : List Char := Text.written ((writtenSections rule).flatMap Section.lines)

/-! ### Rules that can be written -/

/-- A text for a part of a line. -/
structure IsPhrase (s : String) : Prop where
  /-- It is not empty. -/
  ne_nil : s.toList ≠ []
  /-- It has no blanks around it. -/
  trim_eq : Text.trim s.toList = s.toList
  /-- It fits on a line. -/
  unbroken : Text.Unbroken s.toList

/-- A text for the lines of a section. -/
structure IsProse (s : String) : Prop where
  /-- It has no blanks around it. -/
  trim_eq : Text.trim s.toList = s.toList
  /-- No line is a heading or a fence. -/
  isText : ∀ line ∈ Text.lines s.toList, IsText line
  /-- It holds no carriage return. -/
  noReturn : '\r' ∉ s.toList

/-- An example that can be written. -/
structure WritableExample (e : Example) : Prop where
  /-- No line of the code is a fence. -/
  code : ∀ line ∈ Text.lines e.code.toList, isFence line = false
  /-- The code holds no carriage return. -/
  noReturn : '\r' ∉ e.code.toList
  /-- The language fits on the line of a fence. -/
  language : ∀ language ∈ e.language, IsPhrase language
  /-- It does not begin like a fence. -/
  notFence : ∀ language ∈ e.language, Text.Begins (fun c => c ≠ '`' ∧ c ≠ '~') language.toList
  /-- The explanation fits on the line of a heading. -/
  explanation : ∀ explanation ∈ e.explanation, IsPhrase explanation

/-- A rule that can be written. -/
structure Writable (rule : Rule) : Prop where
  /-- The id is accepted. -/
  id : Rule.validateId rule.id = .ok ()
  /-- The name fits on the line of a heading. -/
  name : IsPhrase rule.name
  /-- There is a category. -/
  category_ne_nil : rule.category ≠ []
  /-- No category is there twice. -/
  category_nodup : rule.category.Nodup
  /-- The description has no syntax in it. -/
  description : IsProse rule.description
  /-- Nor has the rationale. -/
  rationale : IsProse rule.rationale
  /-- The standard fits on the line of a setting. -/
  standard : ∀ standard ∈ rule.standard, IsPhrase standard
  /-- It has no back quotes around it. -/
  noTicks : ∀ standard ∈ rule.standard, Text.Ends (· ≠ '`') standard.toList
  /-- The good examples can be written. -/
  good : ∀ e ∈ rule.examples.good, WritableExample e
  /-- So can the bad ones. -/
  bad : ∀ e ∈ rule.examples.bad, WritableExample e
  /-- The rule does not know of a document that it came from. -/
  source : rule.source = none

instance (s : String) : Decidable (IsPhrase s) :=
  decidable_of_iff
    (s.toList ≠ [] ∧ Text.trim s.toList = s.toList ∧ Text.Unbroken s.toList)
    ⟨fun h => ⟨h.1, h.2.1, h.2.2⟩, fun h => ⟨h.1, h.2, h.3⟩⟩

instance (s : String) : Decidable (IsProse s) :=
  decidable_of_iff
    (Text.trim s.toList = s.toList ∧ (∀ line ∈ Text.lines s.toList, IsText line) ∧
      '\r' ∉ s.toList)
    ⟨fun h => ⟨h.1, h.2.1, h.2.2⟩, fun h => ⟨h.1, h.2, h.3⟩⟩

instance (e : Example) : Decidable (WritableExample e) :=
  decidable_of_iff
    ((∀ line ∈ Text.lines e.code.toList, isFence line = false) ∧ '\r' ∉ e.code.toList ∧
      (∀ language ∈ e.language, IsPhrase language) ∧
      (∀ language ∈ e.language, Text.Begins (fun c => c ≠ '`' ∧ c ≠ '~') language.toList) ∧
      ∀ explanation ∈ e.explanation, IsPhrase explanation)
    ⟨fun h => ⟨h.1, h.2.1, h.2.2.1, h.2.2.2.1, h.2.2.2.2⟩, fun h => ⟨h.1, h.2, h.3, h.4, h.5⟩⟩

/-! ### Settings -/

/-- The characters of an id. -/
theorem of_mem_id {id : String} (h : Rule.validateId id = .ok ()) {c : Char} (hc : c ∈ id.toList) :
    c = '-' ∨ Rule.isIdChar c = true := by
  obtain ⟨-, hsegments⟩ := (Rule.validateId_eq_ok_iff id).mp h
  refine (Text.eq_or_exists_of_mem hc).imp_right fun ⟨part, hpart, hmem⟩ => ?_
  have hall := hsegments part hpart
  rw [Rule.isIdSegment, Bool.and_eq_true] at hall
  exact List.all_eq_true.mp hall.2 c hmem

theorem toNat_of_isIdChar {c : Char} (h : Rule.isIdChar c = true) :
    (48 ≤ c.toNat ∧ c.toNat ≤ 57) ∨ c.toNat = 95 ∨ (97 ≤ c.toNat ∧ c.toNat ≤ 122) := by
  rw [Rule.isIdChar, Bool.or_eq_true, Bool.or_eq_true] at h
  rcases h with (hlower | hdigit) | hline
  · obtain ⟨hlow, hhigh⟩ := Bool.and_eq_true_iff.mp hlower
    exact .inr (.inr ⟨of_decide_eq_true hlow, of_decide_eq_true hhigh⟩)
  · obtain ⟨hlow, hhigh⟩ := Bool.and_eq_true_iff.mp hdigit
    exact .inl ⟨of_decide_eq_true hlow, of_decide_eq_true hhigh⟩
  · rw [eq_of_beq hline]
    exact .inr (.inl rfl)

theorem isValue_id {id : String} (h : Rule.validateId id = .ok ()) : IsValue id.toList := by
  refine Text.ends_of_forall fun c hc => ?_
  rcases of_mem_id h hc with rfl | hchar
  · exact ⟨rfl, rfl⟩
  · have hn := toNat_of_isIdChar hchar
    constructor
    · simp only [Text.isBlank, Bool.or_eq_false_iff, Bool.and_eq_false_iff,
        decide_eq_false_iff_not, beq_eq_false_iff_ne]
      omega
    · rw [beq_eq_false_iff_ne]
      rintro rfl
      revert hn
      decide

theorem unbroken_id {id : String} (h : Rule.validateId id = .ok ()) : Text.Unbroken id.toList := by
  refine Text.unbroken_of_forall fun c hc => ?_
  rcases of_mem_id h hc with rfl | hchar
  · exact ⟨by decide, by decide⟩
  · constructor <;> rintro rfl <;> cases hchar

theorem isName_of_mem_writtenSettings {rule : Rule} {s : List Char × List Char}
    (h : s ∈ writtenSettings rule) : IsName s.1 ∧ Text.Unbroken s.1 := by
  have hnames : ∀ name ∈ ["ID", "Category", "Severity", "Enabled", "Standard"].map String.toList,
      IsName name ∧ Text.Unbroken name := by decide
  have hmem : s.1 ∈ ["ID", "Category", "Severity", "Enabled", "Standard"].map String.toList := by
    rcases List.mem_append.mp h with hfirst | hstandard
    · simp only [List.mem_cons, List.not_mem_nil, or_false] at hfirst
      rcases hfirst with rfl | rfl | rfl | rfl <;> simp
    · obtain ⟨standard, -, rfl⟩ := List.mem_map.mp hstandard
      simp
  exact hnames s.1 hmem

theorem isValue_of_mem_writtenSettings {rule : Rule} (h : Writable rule)
    {s : List Char × List Char} (hs : s ∈ writtenSettings rule) :
    IsValue s.2 ∧ Text.Unbroken s.2 := by
  rcases List.mem_append.mp hs with hfirst | hstandard
  · simp only [List.mem_cons, List.not_mem_nil, or_false] at hfirst
    rcases hfirst with rfl | rfl | rfl | rfl
    · exact ⟨isValue_id h.id, unbroken_id h.id⟩
    · exact ⟨isValue_categoryList rule.category, unbroken_categoryList rule.category⟩
    · cases rule.severity <;> exact ⟨by decide, by decide⟩
    · cases rule.enabled <;> exact ⟨by decide, by decide⟩
  · obtain ⟨standard, hmem, rfl⟩ := List.mem_map.mp hstandard
    have hsome := Option.mem_toList.mp hmem
    have hphrase := h.standard standard hsome
    obtain ⟨hhead, hlast⟩ := Text.trim_eq_self_iff_ends.mp hphrase.trim_eq
    obtain ⟨hhead', hlast'⟩ := h.noTicks standard hsome
    refine ⟨⟨fun c hc => ⟨hhead c hc, ?_⟩, fun c hc => ⟨hlast c hc, ?_⟩⟩, hphrase.unbroken⟩
    · exact beq_eq_false_iff_ne.mpr (hhead' c hc)
    · exact beq_eq_false_iff_ne.mpr (hlast' c hc)

/-! ### Sections -/

theorem trim_exampleHeading (verdict : Verdict) {e : Example} (h : WritableExample e) :
    Text.trim (exampleHeading verdict e.explanation) = exampleHeading verdict e.explanation ∧
      Text.Unbroken (exampleHeading verdict e.explanation) := by
  have htitle : verdict.title.toList ≠ [] ∧
      Text.trim verdict.title.toList = verdict.title.toList ∧
      Text.Unbroken verdict.title.toList := by cases verdict <;> decide
  obtain ⟨hne, htrim, hunbroken⟩ := htitle
  cases hexplanation : e.explanation with
  | none => exact ⟨htrim, hunbroken⟩
  | some explanation =>
      have hphrase := h.explanation explanation hexplanation
      rw [Text.trim_eq_self_iff_ends] at htrim
      constructor
      · rw [Text.trim_eq_self_iff_ends]
        exact htrim.append (Text.trim_eq_self_iff_ends.mp hphrase.trim_eq) hne hphrase.ne_nil _
      · exact (hunbroken.append (by decide)).append hphrase.unbroken

theorem isFence_fenceLine (language : Option String) : isFence (fenceLine language) = true := by
  cases language <;> rfl

/-- The lines of a code are no fences. -/
theorem isFence_of_mem_code {e : Example} (h : WritableExample e) {line : Line}
    (hline : line ∈ Text.segments '\n' e.code.toList) : isFence line = false :=
  Text.forall_mem_segments (p := fun line => isFence line = false) h.noReturn rfl h.code line hline

theorem isPlain_exampleSection (verdict : Verdict) {e : Example} (h : WritableExample e) :
    (exampleSection verdict e).IsPlain := by
  obtain ⟨htrim, hunbroken⟩ := trim_exampleHeading verdict h
  have hlevel : 1 ≤ 3 ∧ 3 ≤ 6 := by decide
  have hend : ∀ line ∈ [fenceLine none, []], Text.Unbroken line := by decide
  refine ⟨hlevel.1, hlevel.2, htrim, hunbroken, ?_, ?_⟩
  · exact closed_block (isFence_fenceLine e.language) (fun _ => isFence_of_mem_code h)
      (isFence_fenceLine none) rfl (closed_of_isText (by decide))
  · -- The lines are the opening fence, those of the code, and two that are always the same.
    intro line hline
    rcases List.mem_cons.mp hline with rfl | hline
    · cases hlanguage : e.language with
      | none => decide
      | some language =>
          exact Text.Unbroken.append (by decide) (h.language language hlanguage).unbroken
    · rcases List.mem_append.mp hline with hcode | hlast
      · exact Text.unbroken_of_mem_segments h.noReturn hcode
      · exact hend line hlast

/-- The lines of a text are lines of text. -/
theorem isText_of_mem_paragraphs {text : String} (h : IsProse text) {line : Line}
    (hline : line ∈ paragraphs text) : IsText line ∧ Text.Unbroken line := by
  rcases List.mem_append.mp hline with hline | hempty
  · exact ⟨Text.forall_mem_segments h.noReturn isText_nil h.isText line hline,
      Text.unbroken_of_mem_segments h.noReturn hline⟩
  · rw [List.mem_singleton.mp hempty]
    exact ⟨isText_nil, by decide⟩

theorem isPlain_of_mem_writtenSections {rule : Rule} (h : Writable rule) {s : Section}
    (hs : s ∈ writtenSections rule) : s.IsPlain := by
  rcases List.mem_append.mp hs with hfront | hexample
  · simp only [frontSections, List.mem_cons, List.not_mem_nil, or_false] at hfront
    have hempty : ∀ line ∈ [([] : Line)], IsText line ∧ Text.Unbroken line := by decide
    rcases hfront with rfl | rfl | rfl | rfl | rfl
    · refine isPlain_of_isText (by decide) ⟨?_, ?_⟩ hempty
      · rw [Text.trim_eq_self_iff_ends]
        exact Text.Ends.append (by decide)
          (Text.trim_eq_self_iff_ends.mp h.name.trim_eq) (by decide) h.name.ne_nil _
      · exact Text.Unbroken.append (by decide) h.name.unbroken
    · refine isPlain_of_isText (by decide) (by decide) fun line hline => ?_
      rcases List.mem_append.mp hline with hsetting | hline
      · obtain ⟨s, hs, rfl⟩ := List.mem_map.mp hsetting
        exact ⟨isText_bulletLine s.1 s.2, unbroken_bulletLine
          (isName_of_mem_writtenSettings hs).2 (isValue_of_mem_writtenSettings h hs).2⟩
      · exact hempty line hline
    · exact isPlain_of_isText (by decide) (by decide)
        fun _ => isText_of_mem_paragraphs h.description
    · exact isPlain_of_isText (by decide) (by decide)
        fun _ => isText_of_mem_paragraphs h.rationale
    · exact isPlain_of_isText (by decide) (by decide) hempty
  · rcases List.mem_append.mp hexample with hgood | hbad
    · obtain ⟨e, he, rfl⟩ := List.mem_map.mp hgood
      exact isPlain_exampleSection .good (h.good e he)
    · obtain ⟨e, he, rfl⟩ := List.mem_map.mp hbad
      exact isPlain_exampleSection .bad (h.bad e he)

/-- **A written document has the sections that it was made of**, after one of nothing. -/
theorem sections_write {rule : Rule} (h : Writable rule) :
    sections (write rule) = ⟨0, [], []⟩ :: writtenSections rule :=
  sections_written fun _ => isPlain_of_mem_writtenSections h

end Rulebook.Document
