/-
**Sections that are written out.**

A section is written as the line of its heading and its lines.  A document of such sections is
divided into these sections again if no section has lines that would be taken for the heading of
another, and if each fenced block that it opens is closed in it: a fenced block that stays open
hides the headings that follow.

Main definitions:

* `Rulebook.Document.Section.lines` — a section written out;
* `Rulebook.Document.Closed` — lines without headings outside of fenced blocks, with every fenced
  block closed;
* `Rulebook.Document.Section.IsPlain` — sections that can be written out;
* `Rulebook.Document.Section.StandsAlone` — sections that are told from those around them.

Main results:

* `Rulebook.Document.sections_of_lines` — lines are divided into the sections that they were put
  together from;
* `Rulebook.Document.sections_written` — **written sections are read back**;
* `Rulebook.Document.fences_block` — and so are fenced blocks.
-/

import Rulebook.Document.Section
import Rulebook.Proofs.Text.Lines

set_option autoImplicit false

namespace Rulebook.Document

/-! ### Headings -/

/-- The line of the heading of a section. -/
def Section.headingLine (s : Section) : Line := List.replicate s.level '#' ++ ' ' :: s.heading

/-- A section written out. -/
def Section.lines (s : Section) : List Line := s.headingLine :: s.body

/-- The line of a heading has no blanks in front. -/
theorem trimStart_headingLine {s : Section} (h : 1 ≤ s.level) :
    Text.trimStart s.headingLine = s.headingLine := by
  obtain ⟨n, hn⟩ := Nat.exists_eq_add_of_le' h
  rw [Text.trimStart, Section.headingLine, hn, List.replicate_succ, List.cons_append,
    List.dropWhile_cons]
  rfl

theorem heading?_headingLine {s : Section} (hlow : 1 ≤ s.level) (hhigh : s.level ≤ 6)
    (htrim : Text.trim s.heading = s.heading) :
    heading? s.headingLine = some (s.level, s.heading) := by
  have htake : s.headingLine.takeWhile (· == '#') = List.replicate s.level '#' := by
    rw [Section.headingLine, List.takeWhile_append_of_pos]
    · rw [List.takeWhile_cons]
      exact List.append_nil _
    · intro c hc
      rw [List.eq_of_mem_replicate hc]
      rfl
  have hdrop : s.headingLine.drop s.level = ' ' :: s.heading :=
    List.drop_left' List.length_replicate
  rw [heading?, trimStart_headingLine hlow, htake, List.length_replicate, hdrop,
    if_neg (by omega)]
  change some (s.level, Text.trim (' ' :: s.heading)) = some (s.level, s.heading)
  rw [Text.trim_cons rfl, htrim]

theorem isFence_headingLine {s : Section} (h : 1 ≤ s.level) : isFence s.headingLine = false := by
  rw [isFence, trimStart_headingLine h]
  obtain ⟨n, hn⟩ := Nat.exists_eq_add_of_le' h
  rw [Section.headingLine, hn]
  rfl

/-! ### The lines under a heading -/

/-- Lines with no heading outside of fenced blocks and with every fenced block closed, read inside
or outside of a fenced block. -/
def Closed : Bool → List Line → Prop
  | inFence, [] => inFence = false
  | inFence, line :: rest =>
    (fencedAfter inFence line = false → heading? line = none) ∧
      Closed (fencedAfter inFence line) rest

/-- A line that is neither a heading nor a fence. -/
def IsText (line : Line) : Prop := heading? line = none ∧ isFence line = false

instance (line : Line) : Decidable (IsText line) := inferInstanceAs (Decidable (_ ∧ _))

theorem isText_nil : IsText [] := ⟨rfl, rfl⟩

theorem closed_of_isText {lines : List Line} (h : ∀ line ∈ lines, IsText line) :
    Closed false lines := by
  induction lines with
  | nil => rfl
  | cons line rest ih =>
      obtain ⟨⟨hheading, hfence⟩, hrest⟩ := List.forall_mem_cons.mp h
      have hstay : fencedAfter false line = false := by rw [fencedAfter, hfence]; rfl
      refine ⟨fun _ => hheading, ?_⟩
      rw [hstay]
      exact ih hrest

/-- A fenced block is closed, whatever headings there are in it. -/
theorem closed_block {first last : Line} {code rest : List Line} (hfirst : isFence first = true)
    (hcode : ∀ line ∈ code, isFence line = false) (hlast : isFence last = true)
    (hheading : heading? last = none) (hrest : Closed false rest) :
    Closed false (first :: (code ++ last :: rest)) := by
  have hopen : fencedAfter false first = true := by rw [fencedAfter, hfirst]; rfl
  have hshut : fencedAfter true last = false := by rw [fencedAfter, hlast]; rfl
  refine ⟨fun h => absurd (hopen.symm.trans h) Bool.noConfusion, ?_⟩
  rw [hopen]
  induction code with
  | nil => exact ⟨fun _ => hheading, by rwa [hshut]⟩
  | cons line code ih =>
      obtain ⟨hline, hcode⟩ := List.forall_mem_cons.mp hcode
      have hstay : fencedAfter true line = true := by rw [fencedAfter, hline]; rfl
      refine ⟨fun h => absurd (hstay.symm.trans h) Bool.noConfusion, ?_⟩
      rw [hstay]
      exact ih hcode

/-- Closed lines belong to what they follow. -/
theorem splitSections_append {inFence : Bool} {body : List Line} (h : Closed inFence body)
    (rest : List Line) :
    splitSections inFence (body ++ rest) =
      (body ++ (splitSections false rest).1, (splitSections false rest).2) := by
  induction body generalizing inFence with
  | nil =>
      rw [Closed] at h
      rw [h]
      rfl
  | cons line body ih =>
      obtain ⟨hheading, hbody⟩ := h
      rw [List.cons_append, splitSections, ih hbody]
      cases hfenced : fencedAfter inFence line with
      | true => rfl
      | false =>
          rw [hfenced] at hheading
          simp [hheading rfl]

/-! ### Sections -/

/-- A section that can be written out. -/
structure Section.IsPlain (s : Section) : Prop where
  /-- It has a heading. -/
  one_le_level : 1 ≤ s.level
  /-- The heading is of one of the six levels. -/
  level_le_six : s.level ≤ 6
  /-- The heading has no blanks around it. -/
  trim_heading : Text.trim s.heading = s.heading
  /-- The heading fits on a line. -/
  unbroken_heading : Text.Unbroken s.heading
  /-- No line under it is a heading, and every fenced block is closed. -/
  closed : Closed false s.body
  /-- The lines under it are lines. -/
  unbroken_body : ∀ line ∈ s.body, Text.Unbroken line

/-- A section that is divided off by its heading, and by the next one. -/
structure Section.StandsAlone (s : Section) : Prop where
  /-- It has a heading. -/
  one_le_level : 1 ≤ s.level
  /-- The heading is of one of the six levels. -/
  level_le_six : s.level ≤ 6
  /-- The heading has no blanks around it. -/
  trim_heading : Text.trim s.heading = s.heading
  /-- No line under it is a heading, and every fenced block is closed. -/
  closed : Closed false s.body

theorem Section.IsPlain.standsAlone {s : Section} (h : s.IsPlain) : s.StandsAlone :=
  ⟨h.one_le_level, h.level_le_six, h.trim_heading, h.closed⟩

/-- Lines of text can be written under any heading. -/
theorem isPlain_of_isText {level : Nat} {heading : List Char} {body : List Line}
    (hlevel : 1 ≤ level ∧ level ≤ 6)
    (hheading : Text.trim heading = heading ∧ Text.Unbroken heading)
    (hbody : ∀ line ∈ body, IsText line ∧ Text.Unbroken line) :
    Section.IsPlain ⟨level, heading, body⟩ where
  one_le_level := hlevel.1
  level_le_six := hlevel.2
  trim_heading := hheading.1
  unbroken_heading := hheading.2
  closed := closed_of_isText fun line hline => (hbody line hline).1
  unbroken_body := fun line hline => (hbody line hline).2

theorem unbroken_of_mem_lines {s : Section} (h : s.IsPlain) {line : Line} (hline : line ∈ s.lines) :
    Text.Unbroken line := by
  rcases List.mem_cons.mp hline with rfl | hbody
  · refine (Text.unbroken_of_forall fun c hc => ?_).append (b := ' ' :: s.heading) ?_
    · rw [List.eq_of_mem_replicate hc]
      exact ⟨by decide, by decide⟩
    · exact Text.Unbroken.append (a := [' ']) (by decide) h.unbroken_heading
  · exact h.unbroken_body line hbody

theorem splitSections_lines {s : Section} (h : s.StandsAlone) (rest : List Line) :
    splitSections false (s.lines ++ rest) =
      ([], { s with body := s.body ++ (splitSections false rest).1 } ::
        (splitSections false rest).2) := by
  have hfenced : fencedAfter false s.headingLine = false := by
    rw [fencedAfter, isFence_headingLine h.one_le_level]
    rfl
  rw [Section.lines, List.cons_append, splitSections, hfenced, splitSections_append h.closed]
  simp [heading?_headingLine h.one_le_level h.level_le_six h.trim_heading]

theorem splitSections_flatMap_lines {ss : List Section} (h : ∀ s ∈ ss, s.StandsAlone) :
    splitSections false (ss.flatMap Section.lines) = ([], ss) := by
  induction ss with
  | nil => rfl
  | cons s ss ih =>
      obtain ⟨hs, hss⟩ := List.forall_mem_cons.mp h
      rw [List.flatMap_cons, splitSections_lines hs, ih hss, List.append_nil]

/-- Lines are divided into the sections that they were put together from, after one of nothing. -/
theorem sections_of_lines {content : List Char} {ss : List Section}
    (hlines : Text.lines content = ss.flatMap Section.lines) (h : ∀ s ∈ ss, s.StandsAlone) :
    sections content = ⟨0, [], []⟩ :: ss := by
  rw [sections, hlines, sectionsOfLines, splitSections_flatMap_lines h]

/-- **Written sections are read back**, after one of nothing. -/
theorem sections_written {ss : List Section} (h : ∀ s ∈ ss, s.IsPlain) :
    sections (Text.written (ss.flatMap Section.lines)) = ⟨0, [], []⟩ :: ss := by
  refine sections_of_lines (Text.lines_written fun line hline => ?_) fun s hs => (h s hs).standsAlone
  obtain ⟨s, hs, hline⟩ := List.mem_flatMap.mp hline
  exact unbroken_of_mem_lines (h s hs) hline

/-! ### Fenced blocks -/

theorem fences_eq_nil {lines : List Line} (h : ∀ line ∈ lines, isFence line = false) :
    fences lines = [] := by
  rw [fences]
  induction lines with
  | nil => rfl
  | cons line rest ih =>
      obtain ⟨hline, hrest⟩ := List.forall_mem_cons.mp h
      rw [fencesFrom, hline]
      exact ih hrest

theorem fencesFrom_append {fence : Fence} {code rest : List Line} {last : Line}
    (hcode : ∀ line ∈ code, isFence line = false) (hlast : isFence last = true) :
    fencesFrom (some fence) (code ++ last :: rest) =
      { fence with lines := fence.lines ++ code } :: fences rest := by
  induction code generalizing fence with
  | nil =>
      rw [List.nil_append, fencesFrom, if_pos hlast, List.append_nil]
      rfl
  | cons line code ih =>
      obtain ⟨hline, hcode⟩ := List.forall_mem_cons.mp hcode
      rw [List.cons_append, fencesFrom, hline, if_neg Bool.noConfusion, ih hcode]
      simp

/-- A fenced block is read back. -/
theorem fences_block {first last : Line} {code rest : List Line} (hfirst : isFence first = true)
    (hcode : ∀ line ∈ code, isFence line = false) (hlast : isFence last = true) :
    fences (first :: (code ++ last :: rest)) = ⟨fenceLanguage first, code⟩ :: fences rest := by
  rw [fences, fencesFrom, if_pos hfirst, fencesFrom_append hcode hlast]
  rfl

end Rulebook.Document
