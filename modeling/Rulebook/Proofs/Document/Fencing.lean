/-
**Sections and fenced blocks in step.**

The lines of a document are gone through twice.  The division into sections goes through all of
them and keeps whether it is inside of a fenced block, so that it knows where not to look for a
heading.  The search for fenced blocks goes through the lines of one section and begins anew in each
of them, outside of any block.  That the two agree about every line is not written down anywhere:
it holds because a heading is found outside of fenced blocks only, so that whatever is divided off
before it has as many fences as are needed to close every block.  The last section is divided off by
the end of the document, and may leave a block open.

Both are followed line by line here (`Rulebook.Document.traced`).  What is compared is, for each
line, whether it is inside of a fenced block after the line: a first fence counts as inside, the
fence that ends the block as outside.

Main definitions:

* `Rulebook.Document.divisionTrace`, `Rulebook.Document.blockTrace` — the lines as the division into
  sections goes through them, and as the search for fenced blocks does;
* `Rulebook.Document.HeadedSection` — a section with the line of its heading;
* `Rulebook.Document.IsBlock` — a closed fenced block, where it stands.

Main results:

* `Rulebook.Document.mem_fences_iff` — the fenced blocks that are found are the closed ones;
* `Rulebook.Document.fences_lines` — those of the sections are those of the document;
* `Rulebook.Document.sections_in_step` — **nothing is lost, and the two agree about every line**.
-/

import Mathlib.Algebra.Group.Nat.Even
import Rulebook.Proofs.Document.Sections

set_option autoImplicit false

namespace Rulebook.Document

/-! ### Reading line by line -/

/-- The lines that are gone through from a state, each with whether the state after it is inside of
a fenced block. -/
def traced {σ : Type} (step : σ → Line → σ) (isInside : σ → Bool) : σ → List Line → List (Line × Bool)
  | _, [] => []
  | state, line :: rest =>
    (line, isInside (step state line)) :: traced step isInside (step state line) rest

/-- The lines as the division into sections goes through them. -/
def divisionTrace (inFence : Bool) (lines : List Line) : List (Line × Bool) :=
  traced fencedAfter id inFence lines

@[simp] theorem divisionTrace_nil (inFence : Bool) : divisionTrace inFence [] = [] := rfl

@[simp] theorem divisionTrace_cons (inFence : Bool) (line : Line) (rest : List Line) :
    divisionTrace inFence (line :: rest) =
      (line, fencedAfter inFence line) :: divisionTrace (fencedAfter inFence line) rest := rfl

theorem divisionTrace_append (inFence : Bool) (first second : List Line) :
    divisionTrace inFence (first ++ second) =
      divisionTrace inFence first ++ divisionTrace (first.foldl fencedAfter inFence) second := by
  induction first generalizing inFence with
  | nil => rfl
  | cons line rest ih =>
      rw [List.cons_append, divisionTrace_cons, divisionTrace_cons, ih, List.cons_append,
        List.foldl_cons]

/-- The block that is open after a line, for the search for fenced blocks. -/
def openAfter (opened : Option Fence) (line : Line) : Option Fence :=
  if isFence line then
    match opened with
    | some _ => none
    | none => some ⟨fenceLanguage line, []⟩
  else opened.map fun fence => { fence with lines := fence.lines ++ [line] }

/-- The lines as the search for fenced blocks goes through them. -/
def blockTrace (opened : Option Fence) (lines : List Line) : List (Line × Bool) :=
  traced openAfter Option.isSome opened lines

/-- Both are inside of a fenced block after the same lines. -/
theorem isSome_openAfter (opened : Option Fence) (line : Line) :
    (openAfter opened line).isSome = fencedAfter opened.isSome line := by
  unfold openAfter fencedAfter
  cases opened <;> split <;> rfl

theorem blockTrace_eq (opened : Option Fence) (lines : List Line) :
    blockTrace opened lines = divisionTrace opened.isSome lines := by
  induction lines generalizing opened with
  | nil => rfl
  | cons line rest ih =>
      rw [divisionTrace_cons, ← isSome_openAfter, ← ih]
      rfl

theorem isSome_foldl_openAfter (opened : Option Fence) (lines : List Line) :
    (lines.foldl openAfter opened).isSome = lines.foldl fencedAfter opened.isSome := by
  induction lines generalizing opened with
  | nil => rfl
  | cons line rest ih => rw [List.foldl_cons, ih, isSome_openAfter]; rfl

/-- After an even number of fences reading is where it began. -/
theorem foldl_fencedAfter_eq (inFence : Bool) (lines : List Line) :
    lines.foldl fencedAfter inFence = inFence ↔ Even (lines.countP isFence) := by
  induction lines generalizing inFence with
  | nil => simp
  | cons line rest ih =>
      rw [List.foldl_cons, fencedAfter]
      cases hfence : isFence line with
      | false => simp [hfence, ih]
      | true =>
          rw [List.countP_cons_of_pos hfence, Nat.even_add_one, ← ih (!inFence), if_pos rfl]
          cases rest.foldl fencedAfter (!inFence) <;> cases inFence <;> decide

/-! ### Headings -/

/-- The heading that a line is taken for: none if it is inside of a fenced block. -/
def headingAt (placed : Line × Bool) : Option (Nat × List Char) :=
  if placed.2 then none else heading? placed.1

theorem headingAt_eq_some_iff {placed : Line × Bool} {title : Nat × List Char} :
    headingAt placed = some title ↔ placed.2 = false ∧ heading? placed.1 = some title := by
  rw [headingAt]
  cases placed.2 <;> simp

/-- A heading begins with a number sign, a fence does not. -/
theorem isFence_of_heading? {line : Line} {title : Nat × List Char}
    (h : heading? line = some title) : isFence line = false := by
  unfold heading? at h
  unfold isFence
  split
  · rename_i rest hline
    simp [hline] at h
  · rename_i rest hline
    simp [hline] at h
  · rfl

/-- Where a heading is found reading was outside of fenced blocks already. -/
theorem outside_of_headingAt {inFence : Bool} {line : Line} {title : Nat × List Char}
    (h : headingAt (line, fencedAfter inFence line) = some title) : inFence = false := by
  obtain ⟨houtside, hheading⟩ := headingAt_eq_some_iff.mp h
  simpa [fencedAfter, isFence_of_heading? hheading] using houtside

/-- A line that is not taken for a heading belongs to what follows it. -/
theorem splitSections_of_eq_none {inFence : Bool} {line : Line}
    (h : headingAt (line, fencedAfter inFence line) = none) (rest : List Line) :
    splitSections inFence (line :: rest) =
      (line :: (splitSections (fencedAfter inFence line) rest).1,
        (splitSections (fencedAfter inFence line) rest).2) := by
  have hnone : (if fencedAfter inFence line then none else heading? line) = none := h
  rw [splitSections, hnone]

/-- A line that is taken for a heading begins a section. -/
theorem splitSections_of_eq_some {inFence : Bool} {line : Line} {title : Nat × List Char}
    (h : headingAt (line, fencedAfter inFence line) = some title) (rest : List Line) :
    splitSections inFence (line :: rest) =
      ([], ⟨title.1, title.2, (splitSections (fencedAfter inFence line) rest).1⟩ ::
        (splitSections (fencedAfter inFence line) rest).2) := by
  have hsome : (if fencedAfter inFence line then none else heading? line) = some title := h
  rw [splitSections, hsome]

/-- The level and the text of the heading of a section. -/
def Section.title (s : Section) : Nat × List Char := (s.level, s.heading)

/-- **The headings of the sections** are those of the lines outside of fenced blocks. -/
theorem map_title_splitSections (inFence : Bool) (lines : List Line) :
    (splitSections inFence lines).2.map Section.title =
      (divisionTrace inFence lines).filterMap headingAt := by
  induction lines generalizing inFence with
  | nil => rfl
  | cons line rest ih =>
      rw [divisionTrace_cons]
      cases h : headingAt (line, fencedAfter inFence line) with
      | some title =>
          rw [splitSections_of_eq_some h, List.filterMap_cons_some h, ← ih]
          rfl
      | none => rw [splitSections_of_eq_none h, List.filterMap_cons_none h, ← ih]

/-! ### Sections with their headings -/

/-- A section with the line of its heading. -/
structure HeadedSection where
  /-- The line of the heading. -/
  line : Line
  /-- The section. -/
  part : Section
  /-- The line is read as the heading of the section. -/
  heading?_eq : heading? line = some part.title

namespace HeadedSection

/-- The lines of a section, with that of its heading. -/
def lines (s : HeadedSection) : List Line := s.line :: s.part.body

/-- The lines of a section as they are gone through: that of its heading is outside of fenced
blocks, and the search for fenced blocks begins after it. -/
def trace (s : HeadedSection) : List (Line × Bool) := (s.line, false) :: blockTrace none s.part.body

end HeadedSection

/-- **The lines of the sections, one after the other, are those that were divided**, and the search
for fenced blocks, which begins anew in every section, goes through them as the division did. -/
theorem exists_headed (inFence : Bool) (lines : List Line) :
    ∃ headed : List HeadedSection, (splitSections inFence lines).2 = headed.map HeadedSection.part ∧
      lines = (splitSections inFence lines).1 ++ headed.flatMap HeadedSection.lines ∧
      divisionTrace inFence lines =
        divisionTrace inFence (splitSections inFence lines).1 ++
          headed.flatMap HeadedSection.trace := by
  induction lines generalizing inFence with
  | nil => exact ⟨[], rfl, rfl, rfl⟩
  | cons line rest ih =>
      obtain ⟨headed, hparts, hlines, htrace⟩ := ih (fencedAfter inFence line)
      rw [divisionTrace_cons]
      cases h : headingAt (line, fencedAfter inFence line) with
      | some title =>
          rw [splitSections_of_eq_some h]
          obtain ⟨houtside, hheading⟩ := headingAt_eq_some_iff.mp h
          replace houtside : fencedAfter inFence line = false := houtside
          replace hheading : heading? line = some title := hheading
          -- Below the heading the division is outside of blocks, where the search begins.
          rw [houtside] at hparts hlines htrace ⊢
          refine ⟨⟨line, ⟨title.1, title.2, (splitSections false rest).1⟩, hheading⟩ :: headed,
            ?_, ?_, ?_⟩
          · rw [List.map_cons, ← hparts]
          · rw [List.nil_append, List.flatMap_cons, HeadedSection.lines, List.cons_append, ← hlines]
          · rw [htrace, List.flatMap_cons, HeadedSection.trace, blockTrace_eq]
            rfl
      | none =>
          rw [splitSections_of_eq_none h]
          refine ⟨headed, hparts, ?_, ?_⟩
          · rw [List.cons_append, ← hlines]
          · rw [divisionTrace_cons, List.cons_append, ← htrace]

/-- A line of a section is a line of the document. -/
theorem mem_lines_of_mem_body {content : List Char} {s : Section} (hs : s ∈ sections content)
    {line : Line} (hline : line ∈ s.body) : line ∈ Text.lines content := by
  obtain ⟨headed, hparts, hlines, -⟩ := exists_headed false (Text.lines content)
  rw [hlines, List.mem_append]
  rcases List.mem_cons.mp hs with rfl | hs
  · exact .inl hline
  · rw [hparts, List.mem_map] at hs
    obtain ⟨part, hpart, rfl⟩ := hs
    exact .inr (List.mem_flatMap.mpr ⟨part, hpart, List.mem_cons_of_mem _ hline⟩)

/-- What is divided off by a heading closes all its fenced blocks. -/
theorem closed_before_heading (inFence : Bool) (lines : List Line) :
    ((splitSections inFence lines).2 ≠ [] →
      (splitSections inFence lines).1.foldl fencedAfter inFence = false) ∧
    ∀ s ∈ (splitSections inFence lines).2.dropLast, s.body.foldl fencedAfter false = false := by
  induction lines generalizing inFence with
  | nil => exact ⟨fun h => absurd rfl h, fun s hs => nomatch hs⟩
  | cons line rest ih =>
      obtain ⟨hbody, hlater⟩ := ih (fencedAfter inFence line)
      cases h : headingAt (line, fencedAfter inFence line) with
      | none =>
          rw [splitSections_of_eq_none h]
          exact ⟨hbody, hlater⟩
      | some title =>
          rw [splitSections_of_eq_some h]
          have hinFence := outside_of_headingAt h
          obtain ⟨houtside, -⟩ := headingAt_eq_some_iff.mp h
          replace houtside : fencedAfter inFence line = false := houtside
          rw [houtside] at hbody hlater ⊢
          refine ⟨fun _ => hinFence, fun s hs => ?_⟩
          -- The section of this heading is the last one, or divided off by another heading.
          cases hmore : (splitSections false rest).2 with
          | nil => simp [hmore] at hs
          | cons next more =>
              rw [hmore, List.dropLast_cons_of_ne_nil (List.cons_ne_nil next more)] at hs
              obtain rfl | hs := List.mem_cons.mp hs
              · exact hbody (by simp [hmore])
              · exact hlater s (by rwa [hmore])

theorem even_of_mem_dropLast {lines : List Line} {s : Section}
    (h : s ∈ (sectionsOfLines lines).dropLast) : Even (s.body.countP isFence) := by
  obtain ⟨hbody, hlater⟩ := closed_before_heading false lines
  rw [← foldl_fencedAfter_eq false]
  change s ∈ (⟨0, [], (splitSections false lines).1⟩ :: (splitSections false lines).2).dropLast at h
  by_cases hmore : (splitSections false lines).2 = []
  · simp [hmore] at h
  · rw [List.dropLast_cons_of_ne_nil hmore] at h
    obtain rfl | h := List.mem_cons.mp h
    · exact hbody hmore
    · exact hlater s h

/-! ### Fenced blocks -/

/-- A closed fenced block of some lines: it stands between two fences, and before the first of them
every block is closed. -/
def IsBlock (lines : List Line) (f : Fence) : Prop :=
  ∃ before first last after, lines = before ++ first :: (f.lines ++ last :: after) ∧
    Even (before.countP isFence) ∧ isFence first = true ∧ f.language = fenceLanguage first ∧
    (∀ line ∈ f.lines, isFence line = false) ∧ isFence last = true

/-- A fence ends the block that is open; after any line the search goes on. -/
theorem fencesFrom_cons (opened : Option Fence) (line : Line) (rest : List Line) :
    fencesFrom opened (line :: rest) =
      (if isFence line then opened.toList else []) ++ fencesFrom (openAfter opened line) rest := by
  cases opened <;> rw [fencesFrom, openAfter] <;> split <;> rfl

/-- The search goes on behind some lines with the block that they leave open. -/
theorem fencesFrom_append_eq (opened : Option Fence) (first second : List Line) :
    fencesFrom opened (first ++ second) =
      fencesFrom opened first ++ fencesFrom (first.foldl openAfter opened) second := by
  induction first generalizing opened with
  | nil => cases opened <;> rfl
  | cons line rest ih =>
      rw [List.cons_append, fencesFrom_cons, fencesFrom_cons, ih, List.append_assoc,
        List.foldl_cons]

/-- A block that is found was open before, or begins and ends in the lines that are searched. -/
theorem block_of_mem_fencesFrom {opened : Option Fence} {lines : List Line} {f : Fence}
    (h : f ∈ fencesFrom opened lines) :
    (∃ fence ∈ opened, ∃ code last after, lines = code ++ last :: after ∧
      f = { fence with lines := fence.lines ++ code } ∧ (∀ line ∈ code, isFence line = false) ∧
      isFence last = true) ∨
    ∃ before first last after, lines = before ++ first :: (f.lines ++ last :: after) ∧
      before.foldl fencedAfter opened.isSome = false ∧ isFence first = true ∧
      f.language = fenceLanguage first ∧ (∀ line ∈ f.lines, isFence line = false) ∧
      isFence last = true := by
  induction lines generalizing opened with
  | nil => cases opened <;> cases h
  | cons line rest ih =>
      rw [fencesFrom_cons, List.mem_append] at h
      obtain h | h := h
      · -- The line ends the block that was open.
        split at h
        · rename_i hfence
          exact Or.inl ⟨f, Option.mem_toList.mp h, [], line, rest, rfl, by simp, by simp, hfence⟩
        · cases h
      · obtain ⟨fence, hopen, code, last, after, hrest, hf, hcode, hlast⟩ |
          ⟨before, first, last, after, hrest, hbefore, hblock⟩ := ih h
        · cases hfence : isFence line with
          | true =>
              -- The block that is open after the line begins with it.
              have hnone : opened = none := by
                cases opened with
                | none => rfl
                | some _ => simp [openAfter, hfence] at hopen
              obtain rfl : ⟨fenceLanguage line, []⟩ = fence := by
                simpa [openAfter, hfence, hnone] using hopen
              obtain rfl : f = ⟨fenceLanguage line, code⟩ := hf
              exact Or.inr ⟨[], line, last, after, congrArg (line :: ·) hrest, by rw [hnone]; rfl,
                hfence, rfl, hcode, hlast⟩
          | false =>
              simp only [openAfter, hfence, Bool.false_eq_true, if_false, Option.mem_def,
                Option.map_eq_some_iff] at hopen
              obtain ⟨older, holder, rfl⟩ := hopen
              refine Or.inl ⟨older, holder, line :: code, last, after,
                congrArg (line :: ·) hrest, ?_, ?_, hlast⟩
              · rw [hf, List.append_assoc, List.singleton_append]
              · exact List.forall_mem_cons.mpr ⟨hfence, hcode⟩
        · refine Or.inr ⟨line :: before, first, last, after, congrArg (line :: ·) hrest, ?_, hblock⟩
          rwa [List.foldl_cons, ← isSome_openAfter]

/-- **The fenced blocks that are found are the closed ones.** -/
theorem mem_fences_iff {lines : List Line} {f : Fence} : f ∈ fences lines ↔ IsBlock lines f := by
  constructor
  · intro h
    obtain ⟨fence, hnone, -⟩ | ⟨before, first, last, after, hlines, hbefore, hblock⟩ :=
      block_of_mem_fencesFrom h
    · cases hnone
    · exact ⟨before, first, last, after, hlines, (foldl_fencedAfter_eq false before).mp hbefore,
        hblock⟩
  · rintro ⟨before, first, last, after, rfl, heven, hfirst, hlanguage, hcode, hlast⟩
    have hnone : before.foldl openAfter none = none := by
      rw [← Option.not_isSome_iff_eq_none, isSome_foldl_openAfter]
      simpa using (foldl_fencedAfter_eq false before).mpr heven
    rw [fences, fencesFrom_append_eq, hnone]
    refine List.mem_append_right _ ?_
    change f ∈ fences _
    rw [fences_block hfirst hcode hlast, ← hlanguage]
    exact List.mem_cons_self

/-- **The fenced blocks of the sections** are those of the document. -/
theorem fences_lines (lines : List Line) :
    fences lines = (sectionsOfLines lines).flatMap fun s => fences s.body := by
  have hgeneral (opened : Option Fence) : fencesFrom opened lines =
      fencesFrom opened (splitSections opened.isSome lines).1 ++
        (splitSections opened.isSome lines).2.flatMap fun s => fences s.body := by
    induction lines generalizing opened with
    | nil => cases opened <;> rfl
    | cons line rest ih =>
        rw [fencesFrom_cons, ih, isSome_openAfter]
        cases h : headingAt (line, fencedAfter opened.isSome line) with
        | none => rw [splitSections_of_eq_none h, fencesFrom_cons, List.append_assoc]
        | some title =>
            rw [splitSections_of_eq_some h]
            have hnone : opened = none := by
              simpa using outside_of_headingAt h
            obtain ⟨-, hheading⟩ := headingAt_eq_some_iff.mp h
            have hfence := isFence_of_heading? hheading
            rw [hnone, openAfter, hfence]
            rfl
  exact hgeneral none

/-- A block is gone through from its first fence to its last. -/
theorem infix_divisionTrace {lines : List Line} {f : Fence} (h : IsBlock lines f) :
    ∃ first last, isFence first = true ∧ isFence last = true ∧
      (first, true) :: (f.lines.map (·, true) ++ [(last, false)]) <:+: divisionTrace false lines := by
  obtain ⟨before, first, last, after, rfl, heven, hfirst, -, hcode, hlast⟩ := h
  have hinside (code : List Line) (hcode : ∀ line ∈ code, isFence line = false) :
      divisionTrace true code = code.map (·, true) ∧ code.foldl fencedAfter true = true := by
    induction code with
    | nil => exact ⟨rfl, rfl⟩
    | cons line code ih =>
        obtain ⟨hline, hcode⟩ := List.forall_mem_cons.mp hcode
        have hstay : fencedAfter true line = true := by rw [fencedAfter, hline]; rfl
        rw [divisionTrace_cons, List.foldl_cons, hstay, (ih hcode).1, (ih hcode).2]
        exact ⟨rfl, rfl⟩
  have hopen : fencedAfter false first = true := by rw [fencedAfter, hfirst]; rfl
  have hshut : fencedAfter true last = false := by rw [fencedAfter, hlast]; rfl
  obtain ⟨htrace, hthrough⟩ := hinside f.lines hcode
  refine ⟨first, last, hfirst, hlast, divisionTrace false before, divisionTrace false after, ?_⟩
  rw [divisionTrace_append, (foldl_fencedAfter_eq false before).mpr heven, divisionTrace_cons,
    hopen, divisionTrace_append, htrace, hthrough, divisionTrace_cons, hshut]
  simp

/-! ### The whole document -/

/-- **Sections lose nothing and keep step with the fences**, in any document.  Its lines are those
of the first section, which has no heading, and then for each later section the line of its heading
and its lines.  Every section but the last has an even number of fences.  So the search for fenced
blocks, which begins anew in every section, is inside of a block at the same lines as the division.
The headings are those of the lines that the division takes to be outside; the lines of a block that
is found in a section are not among these. -/
theorem sections_in_step (content : List Char) :
    ∃ (body : List Line) (headed : List HeadedSection),
      sections content = ⟨0, [], body⟩ :: headed.map HeadedSection.part ∧
      Text.lines content = body ++ headed.flatMap HeadedSection.lines ∧
      (∀ s ∈ (sections content).dropLast, Even (s.body.countP isFence)) ∧
      divisionTrace false (Text.lines content) =
        blockTrace none body ++ headed.flatMap HeadedSection.trace ∧
      headed.map (fun s => s.part.title) =
        (divisionTrace false (Text.lines content)).filterMap headingAt ∧
      ∀ s ∈ sections content, ∀ f ∈ fences s.body, ∃ first last,
        isFence first = true ∧ isFence last = true ∧
          (first, true) :: (f.lines.map (·, true) ++ [(last, false)]) <:+:
            divisionTrace false (Text.lines content) := by
  obtain ⟨headed, hparts, hlines, htrace⟩ := exists_headed false (Text.lines content)
  refine ⟨(splitSections false (Text.lines content)).1, headed, ?_, hlines, ?_, ?_, ?_, ?_⟩
  · rw [← hparts]
    rfl
  · exact fun s hs => even_of_mem_dropLast hs
  · rw [blockTrace_eq]
    exact htrace
  · rw [← map_title_splitSections, hparts, List.map_map]
    rfl
  · intro s hs f hf
    refine infix_divisionTrace (mem_fences_iff.mp ?_)
    rw [fences_lines]
    exact List.mem_flatMap.mpr ⟨s, hs, hf⟩

end Rulebook.Document
