/-
**How the text of a value gets read.**

A rendering with plain text and one with opaque values can be laid side by side, cell by cell: a
character of the template, a value, or a place where the plain rendering has swallowed a value, that
is, where it took a brace of the template and the text after it, values included, for a variable.
What stands there instead has no brace, since the values of variables are masked; and the brace that
was taken is still there in the other rendering, where no later pass can make a variable of it.  So
whatever passes follow, a rendering that has swallowed a value has fewer braces than the other.

Main definitions:

* `Rulebook.Template.Cell` — the cells, with the text and the glyphs that each stands for;
* `Rulebook.Template.Inert` — glyphs of which no later pass makes a variable.

Main results:

* `Rulebook.Template.realText_eq_iff` — the two renderings agree exactly if nothing is swallowed;
* `Rulebook.Template.passes` — the pass that replaces variables keeps two renderings side by side,
  and it swallows a value exactly where their text is not faithful.
-/

import Rulebook.Proofs.Template.Opaque

set_option autoImplicit false

namespace Rulebook.Template

/-! ### Inert glyphs -/

/-- Nowhere in the glyphs a variable begins, whatever follows them. -/
def Inert (gs : List Glyph) : Prop :=
  ∀ s, s <:+ gs → s ≠ [] → ∀ rest, Variable.read? (plainPrefix (s ++ rest)) = none

theorem inert_nil : Inert [] := by
  intro s hs hne
  exact absurd (List.suffix_nil.mp hs) hne

/-- Glyphs are inert if those after the first are and no variable begins at the first. -/
theorem inert_cons {g : Glyph} {gs : List Glyph}
    (hg : ∀ rest, Variable.read? (plainPrefix (g :: (gs ++ rest))) = none) (hgs : Inert gs) :
    Inert (g :: gs) := by
  intro s hs hne rest
  obtain rfl | hs := List.suffix_cons_iff.mp hs
  · exact hg rest
  · exact hgs s hs hne rest

theorem inert_append {gs hs : List Glyph} (hgs : Inert gs) (hhs : Inert hs) :
    Inert (gs ++ hs) := by
  induction gs with
  | nil => exact hhs
  | cons g gs ih =>
      have htail : Inert gs := fun s hs => hgs s (hs.trans (List.suffix_cons g gs))
      refine inert_cons (fun rest => ?_) (ih htail)
      have hhead := hgs (g :: gs) List.suffix_rfl (List.cons_ne_nil g gs) (hs ++ rest)
      rwa [List.cons_append, ← List.append_assoc] at hhead

theorem read?_eq_none_of_ne {s : List Char} (h : s.head? ≠ some '{') :
    Variable.read? s = none := by
  cases s with
  | nil => rfl
  | cons c rest => exact beginsAtBrace_variable c rest (by simpa using h)

theorem inert_plain {c : Char} (h : c ≠ '{') : Inert [.plain c] :=
  inert_cons (fun rest => read?_eq_none_of_ne (by simpa [plainPrefix] using h)) inert_nil

theorem inert_value (text : List Char) : Inert [.value text] :=
  inert_cons (fun _ => rfl) inert_nil

/-- The pass that replaces variables leaves inert glyphs alone. -/
theorem substituteOpaque_append_of_inert (context : Json) {gs : List Glyph} (h : Inert gs)
    (hs : List Glyph) :
    substituteOpaque context (gs ++ hs) = gs ++ substituteOpaque context hs := by
  induction gs with
  | nil => rfl
  | cons g gs ih =>
      have hhead := h (g :: gs) List.suffix_rfl (List.cons_ne_nil g gs) hs
      have htail : Inert gs := fun s hs => h s (hs.trans (List.suffix_cons g gs))
      rw [List.cons_append] at hhead ⊢
      rw [substituteOpaque_of_none context hhead, ih htail, List.cons_append]

/-! ### Cells -/

/-- A part of two renderings that are laid side by side. -/
inductive Cell where
  /-- A character of the template in both of them. -/
  | plain (c : Char)
  /-- A value: its masked text on the one side, the value itself on the other. -/
  | value (text : List Char)
  /-- A text on the one side, and on the other the glyphs that were swallowed for it. -/
  | swallowed (span : List Glyph) (text : List Char)

namespace Cell

/-- The text of a cell in the rendering with plain text. -/
def real : Cell → List Char
  | plain c => [c]
  | value text => mask text
  | swallowed _ text => text

/-- The glyphs of a cell in the rendering with opaque values. -/
def glyphs : Cell → List Glyph
  | plain c => [.plain c]
  | value text => [.value text]
  | swallowed span _ => span

/-- Whether something was swallowed. -/
def isSwallowed : Cell → Bool
  | swallowed _ _ => true
  | _ => false

/-- What was swallowed begins with a brace of the template of which no pass makes a variable, and
there is no brace in its place. -/
def Sound : Cell → Prop
  | swallowed span text => (∃ more, span = .plain '{' :: more) ∧ Inert span ∧ '{' ∉ text
  | _ => True

end Cell

/-- The text of cells in the rendering with plain text. -/
def realText (cells : List Cell) : List Char := cells.flatMap Cell.real

/-- The glyphs of cells in the rendering with opaque values. -/
def cellGlyphs (cells : List Cell) : List Glyph := cells.flatMap Cell.glyphs

/-- The number of cells in which something was swallowed. -/
def swallows (cells : List Cell) : Nat := cells.countP Cell.isSwallowed

@[simp] theorem realText_cons (cell : Cell) (cells : List Cell) :
    realText (cell :: cells) = cell.real ++ realText cells := rfl

@[simp] theorem realText_append (cells others : List Cell) :
    realText (cells ++ others) = realText cells ++ realText others := by
  simp [realText]

@[simp] theorem cellGlyphs_cons (cell : Cell) (cells : List Cell) :
    cellGlyphs (cell :: cells) = cell.glyphs ++ cellGlyphs cells := rfl

@[simp] theorem cellGlyphs_append (cells others : List Cell) :
    cellGlyphs (cells ++ others) = cellGlyphs cells ++ cellGlyphs others := by
  simp [cellGlyphs]

theorem realText_plain (s : List Char) : realText (s.map .plain) = s := by
  induction s with
  | nil => rfl
  | cons c s ih =>
      rw [List.map_cons, realText_cons, ih]
      rfl

theorem cellGlyphs_plain (s : List Char) : cellGlyphs (s.map .plain) = plainGlyphs s := by
  induction s with
  | nil => rfl
  | cons c s ih =>
      rw [List.map_cons, cellGlyphs_cons, ih]
      rfl

theorem swallows_plain (s : List Char) : swallows (s.map .plain) = 0 := by
  simp [swallows, Cell.isSwallowed]

theorem swallows_swallowed (span : List Glyph) (text : List Char) (cells : List Cell) :
    swallows (.swallowed span text :: cells) = swallows cells + 1 := List.countP_cons_of_pos rfl

theorem swallows_append (cells others : List Cell) :
    swallows (cells ++ others) = swallows cells + swallows others := List.countP_append

/-- Cells in which nothing was swallowed have the same text on both sides. -/
theorem realText_of_swallows_eq_zero {cells : List Cell} (h : swallows cells = 0) :
    realText cells = maskedText (cellGlyphs cells) := by
  induction cells with
  | nil => rfl
  | cons cell cells ih =>
      cases cell with
      | plain c =>
          have hcells : swallows cells = 0 := h
          simp [ih hcells, Cell.real, Cell.glyphs]
      | value text =>
          have hcells : swallows cells = 0 := h
          simp [ih hcells, Cell.real, Cell.glyphs]
      | swallowed span text =>
          rw [swallows_swallowed] at h
          exact absurd h (Nat.succ_ne_zero _)

/-- Wherever something was swallowed a brace went away. -/
theorem count_realText_le {cells : List Cell} (h : ∀ cell ∈ cells, cell.Sound) :
    (realText cells).count '{' + swallows cells ≤
      (maskedText (cellGlyphs cells)).count '{' := by
  induction cells with
  | nil => exact Nat.le_refl 0
  | cons cell cells ih =>
      have hcells := ih fun other hother => h other (List.mem_cons_of_mem cell hother)
      have hcell := h cell List.mem_cons_self
      rw [realText_cons, cellGlyphs_cons, maskedText_append, List.count_append, List.count_append]
      cases cell with
      | plain c =>
          have hcount : swallows (.plain c :: cells) = swallows cells := rfl
          have htext : maskedText (Cell.glyphs (.plain c)) = Cell.real (.plain c) := rfl
          rw [hcount, htext]
          omega
      | value text =>
          have hcount : swallows (.value text :: cells) = swallows cells := rfl
          have htext : maskedText (Cell.glyphs (.value text)) = Cell.real (.value text) := by
            simp [Cell.glyphs, Cell.real]
          rw [hcount, htext]
          omega
      | swallowed span text =>
          obtain ⟨⟨more, hspan⟩, -, htext⟩ := hcell
          have hcount := swallows_swallowed span text cells
          have hreal : (Cell.real (.swallowed span text)).count '{' = 0 :=
            List.count_eq_zero.mpr htext
          have hglyphs : 1 ≤ (maskedText (Cell.glyphs (.swallowed span text))).count '{' := by
            rw [Cell.glyphs, hspan, maskedText_plain]
            simp
          omega

/-- **Two renderings that are laid side by side agree exactly if nothing is swallowed.** -/
theorem realText_eq_iff {cells : List Cell} (h : ∀ cell ∈ cells, cell.Sound) :
    realText cells = maskedText (cellGlyphs cells) ↔ swallows cells = 0 := by
  constructor
  · intro heq
    have hcount := count_realText_le h
    rw [heq] at hcount
    omega
  · exact realText_of_swallows_eq_zero

/-! ### Taking cells apart -/

/-- Characters that a variable is read from with opaque values are cells of their own. -/
theorem exists_plain_cells {cells : List Cell} (h : ∀ cell ∈ cells, cell.Sound) {s : List Char}
    {gs : List Glyph} (hs : '{' ∉ s) (hglyphs : cellGlyphs cells = plainGlyphs s ++ gs) :
    ∃ rest, cells = s.map .plain ++ rest ∧ cellGlyphs rest = gs := by
  induction s generalizing cells with
  | nil => exact ⟨cells, rfl, hglyphs⟩
  | cons c s ih =>
      rw [List.mem_cons, not_or] at hs
      have hcons : plainGlyphs (c :: s) ++ gs = .plain c :: (plainGlyphs s ++ gs) := rfl
      rw [hcons] at hglyphs
      cases cells with
      | nil => cases hglyphs
      | cons cell cells =>
          have hcells : ∀ other ∈ cells, other.Sound :=
            fun other hother => h other (List.mem_cons_of_mem cell hother)
          cases cell with
          | plain d =>
              obtain ⟨hd, hrest⟩ := List.cons.inj hglyphs
              cases hd
              obtain ⟨rest, rfl, hgs⟩ := ih hcells hs.2 hrest
              exact ⟨rest, rfl, hgs⟩
          | value text => cases (List.cons.inj hglyphs).1
          | swallowed span text =>
              -- What was swallowed begins with a brace, and there is none among the characters.
              obtain ⟨⟨more, rfl⟩, -, -⟩ := h _ List.mem_cons_self
              cases (List.cons.inj hglyphs).1
              exact absurd rfl hs.1

theorem brace_not_mem_real {cell : Cell} (h : cell.Sound) (hplain : cell ≠ .plain '{') :
    '{' ∉ cell.real := by
  cases cell with
  | plain c =>
      rw [Cell.real, List.mem_singleton]
      rintro rfl
      exact hplain rfl
  | value text => exact brace_not_mem_mask text
  | swallowed span text => exact h.2.2

/-- A text without braces at the beginning of the plain rendering is covered by cells without
braces. -/
theorem exists_covering_cells {cells : List Cell} (h : ∀ cell ∈ cells, cell.Sound)
    {s t : List Char} (hs : '{' ∉ s) (htext : realText cells = s ++ t) :
    ∃ covering rest extra, cells = covering ++ rest ∧ realText covering = s ++ extra ∧
      t = extra ++ realText rest ∧ '{' ∉ realText covering := by
  induction cells generalizing s with
  | nil =>
      obtain ⟨rfl, rfl⟩ := List.append_eq_nil_iff.mp htext.symm
      exact ⟨[], [], [], rfl, rfl, rfl, List.not_mem_nil⟩
  | cons cell cells ih =>
      have hcells : ∀ other ∈ cells, other.Sound :=
        fun other hother => h other (List.mem_cons_of_mem cell hother)
      by_cases hempty : s = []
      · subst hempty
        exact ⟨[], cell :: cells, [], rfl, rfl, htext.symm, List.not_mem_nil⟩
      · have hcell : '{' ∉ cell.real := by
          refine brace_not_mem_real (h cell List.mem_cons_self) ?_
          rintro rfl
          obtain ⟨c, more, rfl⟩ := List.exists_cons_of_ne_nil hempty
          have hc : '{' = c := (List.cons.inj htext).1
          exact hs (hc ▸ List.mem_cons_self)
        rw [realText_cons] at htext
        obtain ⟨more, rfl, hmore⟩ | ⟨extra, hreal, rfl⟩ := List.append_eq_append_iff.mp htext
        · -- The text goes on beyond the cell.
          have hmem : '{' ∉ more := fun hmem => hs (List.mem_append_right _ hmem)
          obtain ⟨covering, rest, extra, rfl, hcovering, ht, hbrace⟩ := ih hcells hmem hmore
          refine ⟨cell :: covering, rest, extra, rfl, ?_, ht, ?_⟩
          · rw [realText_cons, hcovering, List.append_assoc]
          · rw [realText_cons, List.mem_append, not_or]
            exact ⟨hcell, hbrace⟩
        · -- The text ends within the cell.
          have hone : realText [cell] = cell.real := by simp [realText]
          refine ⟨[cell], cells, extra, rfl, ?_, rfl, ?_⟩
          · rw [hone, hreal]
          · rwa [hone]

/-- Cells without braces are inert on the other side. -/
theorem inert_cellGlyphs {cells : List Cell} (h : ∀ cell ∈ cells, cell.Sound)
    (hbrace : '{' ∉ realText cells) : Inert (cellGlyphs cells) := by
  induction cells with
  | nil => exact inert_nil
  | cons cell cells ih =>
      rw [realText_cons, List.mem_append, not_or] at hbrace
      have hcells : ∀ other ∈ cells, other.Sound :=
        fun other hother => h other (List.mem_cons_of_mem cell hother)
      refine inert_append ?_ (ih hcells hbrace.2)
      cases cell with
      | plain c => exact inert_plain fun hc => hbrace.1 (hc ▸ List.mem_cons_self)
      | value text => exact inert_value text
      | swallowed span text => exact (h _ List.mem_cons_self).2.1

/-- Cells begin with characters of the template, up to a cell of another sort or to the end. -/
theorem exists_plain_prefix (cells : List Cell) :
    ∃ (s : List Char) (rest : List Cell), cells = s.map .plain ++ rest ∧
      ∀ c more, rest ≠ .plain c :: more := by
  induction cells with
  | nil => exact ⟨[], [], rfl, fun c more h => absurd h (by simp)⟩
  | cons cell cells ih =>
      cases cell with
      | plain c =>
          obtain ⟨s, rest, rfl, hrest⟩ := ih
          exact ⟨c :: s, rest, rfl, hrest⟩
      | value text =>
          refine ⟨[], .value text :: cells, rfl, fun c more h => ?_⟩
          cases (List.cons.inj h).1
      | swallowed span text =>
          refine ⟨[], .swallowed span text :: cells, rfl, fun c more h => ?_⟩
          cases (List.cons.inj h).1

/-! ### Swallowing -/

/-- No variable is read where the path is cut short by the end or by another brace. -/
theorem read?_eq_none_of_cut {s t : List Char} (hs : '}' ∉ s)
    (ht : t = [] ∨ t.head? = some '{') : Variable.read? ('{' :: (s ++ t)) = none := by
  refine Option.eq_none_iff_forall_ne_some.mpr fun found hfound => ?_
  obtain ⟨path, rest, hpath, heq, -⟩ := Variable.read?_eq_some_iff.mp hfound
  have htail : s ++ t = path ++ '}' :: rest := by
    simpa [variableSource] using heq
  have hbrace : '{' ∉ path := hpath.not_mem (by decide) (by decide)
  obtain ⟨more, rfl, hmore⟩ | ⟨more, rfl, hmore⟩ := List.append_eq_append_iff.mp htail
  · -- The cut lies within the path, or right after it.
    obtain rfl | ht := ht
    · cases more <;> cases hmore
    · cases more with
      | nil =>
          rw [hmore] at ht
          exact absurd (Option.some.inj ht) (by decide)
      | cons c more =>
          rw [hmore] at ht
          have hc : c = '{' := Option.some.inj ht
          exact hbrace (List.mem_append_right _ (hc ▸ List.mem_cons_self))
  · cases more with
    | nil =>
        obtain rfl | ht := ht
        · cases hmore
        · rw [List.nil_append] at hmore
          rw [← hmore] at ht
          exact absurd (Option.some.inj ht) (by decide)
    | cons c more =>
        have hc : '}' = c := (List.cons.inj hmore).1
        exact hs (List.mem_append_right _ (hc ▸ List.mem_cons_self))

/-- A brace that was taken for the beginning of a variable against the opaque reading never begins
one in the opaque reading, whatever follows. -/
theorem never_read {covering : List Cell} (h : ∀ cell ∈ covering, cell.Sound)
    {path extra : List Char} (hpath : IsPath path)
    (hreal : realText covering = (path ++ ['}']) ++ extra) {gs : List Glyph}
    (hnone : Variable.read? (plainPrefix (.plain '{' :: (cellGlyphs covering ++ gs))) = none)
    (rest : List Glyph) :
    Variable.read? (plainPrefix (.plain '{' :: (cellGlyphs covering ++ rest))) = none := by
  obtain ⟨s, more, rfl, hmore⟩ := exists_plain_prefix covering
  have hclose : '}' ∉ path := hpath.not_mem (by decide) (by decide)
  have htext : s ++ realText more = path ++ '}' :: extra := by
    rw [← realText_plain s, ← realText_append, hreal]
    simp
  have hbegin (hs : List Glyph) :
      plainPrefix (.plain '{' :: (cellGlyphs (s.map .plain ++ more) ++ hs)) =
        '{' :: (s ++ plainPrefix (cellGlyphs more ++ hs)) := by
    rw [cellGlyphs_append, cellGlyphs_plain, List.append_assoc, plainPrefix,
      plainPrefix_plainGlyphs]
  rw [hbegin] at hnone ⊢
  by_cases hmem : '}' ∈ s
  · -- The variable would be made of characters of the template alone.
    obtain ⟨before, rfl, -⟩ | ⟨before, rfl, hbefore⟩ := List.append_eq_append_iff.mp htext
    · exact absurd (List.mem_append_left before hmem) hclose
    · cases before with
      | nil => exact absurd (by simpa using hmem) hclose
      | cons c before =>
          obtain rfl : '}' = c := (List.cons.inj hbefore).1
          have hread := Variable.read?_variableSource
            (before ++ plainPrefix (cellGlyphs more ++ gs)) hpath
          rw [variableSource] at hread
          simp only [List.cons_append, List.append_assoc, List.nil_append] at hread hnone
          rw [hnone] at hread
          cases hread
  · refine read?_eq_none_of_cut hmem ?_
    cases more with
    | nil =>
        have hin : '}' ∈ s ++ realText [] := by
          rw [htext]
          simp
        rw [List.mem_append] at hin
        exact absurd (hin.resolve_right List.not_mem_nil) hmem
    | cons cell more =>
        cases cell with
        | plain c => exact absurd rfl (hmore c more)
        | value text => exact Or.inl rfl
        | swallowed span text =>
            obtain ⟨⟨tail, rfl⟩, -, -⟩ := h (.swallowed span text) (by simp)
            exact Or.inr rfl

/-! ### The pass side by side -/

/-- Cells that lay a text beside glyphs. -/
structure Aligned (cells : List Cell) (text : List Char) (gs : List Glyph) : Prop where
  /-- Each cell is sound. -/
  sound : ∀ cell ∈ cells, cell.Sound
  /-- The text is that of the cells. -/
  real : realText cells = text
  /-- The glyphs are those of the cells. -/
  glyphs : cellGlyphs cells = gs

theorem faithful_cons_iff {g : Glyph} {gs : List Glyph}
    (h : Variable.read? (maskedText (g :: gs)) = Variable.read? (plainPrefix (g :: gs)) ∨
      g.isPlain = false) :
    Faithful (g :: gs) ↔ Faithful gs := by
  constructor
  · exact fun hfaithful => hfaithful.of_suffix (List.suffix_cons g gs)
  · intro hfaithful c rest hsuffix
    obtain heq | hsuffix := List.suffix_cons_iff.mp hsuffix
    · cases heq
      exact h.resolve_right (by simp [Glyph.isPlain])
    · exact hfaithful c rest hsuffix

/-- Where a variable is read with opaque values, it is read in the masked text. -/
theorem faithful_variableSource_iff {path : List Char} (hpath : IsPath path) {gs : List Glyph} :
    Faithful (plainGlyphs (variableSource path) ++ gs) ↔ Faithful gs := by
  have htail {s : List Char} (hs : '{' ∉ s) : Faithful (plainGlyphs s ++ gs) ↔ Faithful gs := by
    induction s with
    | nil => exact Iff.rfl
    | cons c s ih =>
        rw [List.mem_cons, not_or] at hs
        refine (faithful_cons_iff (Or.inl ?_)).trans (ih hs.2)
        -- Neither reading begins at a character that is no brace.
        exact (beginsAtBrace_variable c _ (Ne.symm hs.1)).trans
          (beginsAtBrace_variable c _ (Ne.symm hs.1)).symm
  have hcons : plainGlyphs (variableSource path) ++ gs =
      .plain '{' :: (plainGlyphs (path ++ ['}']) ++ gs) := rfl
  rw [hcons, faithful_cons_iff (Or.inl ?_), htail (brace_not_mem_variableTail hpath)]
  rw [← hcons, maskedText_append, maskedText_plainGlyphs, plainPrefix_plainGlyphs,
    Variable.read?_variableSource _ hpath, Variable.read?_variableSource _ hpath]

/-- After the pass that replaces variables the two renderings of some cells can be laid side by side
again, and something is swallowed in them exactly if it was before or the text is not faithful. -/
def Passes (context : Json) (cells : List Cell) : Prop :=
  ∃ others, Aligned others (substitute context (realText cells))
      (substituteOpaque context (cellGlyphs cells)) ∧
    (swallows others = 0 ↔ swallows cells = 0 ∧ Faithful (cellGlyphs cells))

section

variable {context : Json} {cells : List Cell}

theorem passes_nil : Passes context [] := by
  have hfaithful : Faithful (cellGlyphs []) := by
    intro c rest hsuffix
    exact absurd (List.suffix_nil.mp hsuffix) (List.cons_ne_nil _ _)
  refine ⟨[], ⟨by simp, by simp [realText], by simp [cellGlyphs, substituteOpaque]⟩, ?_⟩
  exact ⟨fun hzero => ⟨hzero, hfaithful⟩, fun hzero => hzero.1⟩

/-- A value is passed over. -/
theorem Passes.value (h : Passes context cells) (text : List Char) :
    Passes context (.value text :: cells) := by
  obtain ⟨others, hothers, hiff⟩ := h
  refine ⟨.value text :: others, ⟨?_, ?_, ?_⟩, ?_⟩
  · exact List.forall_mem_cons.mpr ⟨trivial, hothers.sound⟩
  · rw [realText_cons, realText_cons, hothers.real, Cell.real,
      substitute_append_of_not_mem context _ (brace_not_mem_mask text)]
  · rw [cellGlyphs_cons, cellGlyphs_cons, hothers.glyphs, Cell.glyphs,
      substituteOpaque_append_of_inert context (inert_value text)]
  · exact hiff.trans (and_congr_right fun _ => (faithful_cons_iff (Or.inr rfl)).symm)

/-- What was swallowed before stays so. -/
theorem Passes.swallowed (h : Passes context cells) {span : List Glyph} {text : List Char}
    (hsound : (Cell.swallowed span text).Sound) :
    Passes context (.swallowed span text :: cells) := by
  obtain ⟨others, hothers, -⟩ := h
  refine ⟨.swallowed span text :: others, ⟨?_, ?_, ?_⟩, ?_⟩
  · exact List.forall_mem_cons.mpr ⟨hsound, hothers.sound⟩
  · rw [realText_cons, realText_cons, hothers.real, Cell.real,
      substitute_append_of_not_mem context _ hsound.2.2]
  · rw [cellGlyphs_cons, cellGlyphs_cons, hothers.glyphs, Cell.glyphs,
      substituteOpaque_append_of_inert context hsound.2.1]
  · rw [swallows_swallowed, swallows_swallowed]
    exact ⟨fun hzero => absurd hzero (Nat.succ_ne_zero _),
      fun hzero => absurd hzero.1 (Nat.succ_ne_zero _)⟩

/-- A variable of the template is replaced on both sides. -/
theorem Passes.read (h : Passes context cells) {path : List Char} (hpath : IsPath path) :
    Passes context ((variableSource path).map .plain ++ cells) := by
  obtain ⟨others, hothers, hiff⟩ := h
  refine ⟨.value (displayOption (lookUp context path)) :: others, ⟨?_, ?_, ?_⟩, ?_⟩
  · exact List.forall_mem_cons.mpr ⟨trivial, hothers.sound⟩
  · rw [realText_append, realText_plain, substitute_variableSource context _ hpath, realText_cons,
      hothers.real, Cell.real]
  · rw [cellGlyphs_append, cellGlyphs_plain, substituteOpaque_variableSource context _ hpath,
      cellGlyphs_cons, hothers.glyphs]
    rfl
  · rw [cellGlyphs_append, cellGlyphs_plain, faithful_variableSource_iff hpath, swallows_append,
      swallows_plain, Nat.zero_add]
    exact hiff

/-- A character at which no variable begins on either side stays where it is. -/
theorem Passes.kept (h : Passes context cells) {c : Char}
    (hguarded : Variable.read? (plainPrefix (.plain c :: cellGlyphs cells)) = none)
    (hplain : Variable.read? (c :: realText cells) = none) :
    Passes context (.plain c :: cells) := by
  obtain ⟨others, hothers, hiff⟩ := h
  refine ⟨.plain c :: others, ⟨?_, ?_, ?_⟩, ?_⟩
  · exact List.forall_mem_cons.mpr ⟨trivial, hothers.sound⟩
  · rw [realText_cons, realText_cons, hothers.real]
    exact (substitute_cons_of_none context hplain).symm
  · rw [cellGlyphs_cons, cellGlyphs_cons, hothers.glyphs]
    exact (substituteOpaque_of_none context hguarded).symm
  · refine hiff.trans (and_congr_right fun hzero => (faithful_cons_iff (Or.inl ?_)).symm)
    have hmasked : maskedText (.plain c :: cellGlyphs cells) = c :: realText cells := by
      rw [maskedText_plain, realText_of_swallows_eq_zero hzero]
    exact (congrArg Variable.read? hmasked).trans (hplain.trans hguarded.symm)

/-- A brace that begins a variable in the plain text alone is swallowed with all that the variable
covers, up to the end of the last cell. -/
theorem Passes.taken (h : Passes context cells) {covering : List Cell}
    (hcovering : ∀ cell ∈ covering, cell.Sound) {path extra : List Char} (hpath : IsPath path)
    (hreal : realText covering = (path ++ ['}']) ++ extra)
    (hbrace : '{' ∉ realText covering)
    (hguarded : Variable.read?
      (plainPrefix (.plain '{' :: (cellGlyphs covering ++ cellGlyphs cells))) = none) :
    Passes context (.plain '{' :: (covering ++ cells)) := by
  obtain ⟨others, hothers, -⟩ := h
  have hinert : Inert (.plain '{' :: cellGlyphs covering) :=
    inert_cons (never_read hcovering hpath hreal hguarded) (inert_cellGlyphs hcovering hbrace)
  have hextra : '{' ∉ extra := by
    rw [hreal, List.mem_append, not_or] at hbrace
    exact hbrace.2
  have hreplaced : '{' ∉ mask (displayOption (lookUp context path)) ++ extra := by
    rw [List.mem_append, not_or]
    exact ⟨brace_not_mem_mask _, hextra⟩
  have htext : realText (.plain '{' :: (covering ++ cells)) =
      variableSource path ++ (extra ++ realText cells) := by
    rw [realText_cons, realText_append, hreal]
    simp [Cell.real, variableSource]
  have hglyphs : cellGlyphs (.plain '{' :: (covering ++ cells)) =
      (.plain '{' :: cellGlyphs covering) ++ cellGlyphs cells := by
    rw [cellGlyphs_cons, cellGlyphs_append]
    rfl
  refine ⟨.swallowed (.plain '{' :: cellGlyphs covering)
    (mask (displayOption (lookUp context path)) ++ extra) :: others, ⟨?_, ?_, ?_⟩, ?_⟩
  · exact List.forall_mem_cons.mpr ⟨⟨⟨_, rfl⟩, hinert, hreplaced⟩, hothers.sound⟩
  · rw [htext, substitute_variableSource context _ hpath,
      substitute_append_of_not_mem context _ hextra, realText_cons, hothers.real, Cell.real,
      List.append_assoc]
  · rw [hglyphs, substituteOpaque_append_of_inert context hinert, cellGlyphs_cons, hothers.glyphs,
      Cell.glyphs]
  · rw [swallows_swallowed]
    refine ⟨fun hzero => absurd hzero (Nat.succ_ne_zero _), fun hclean => ?_⟩
    -- If nothing was swallowed before, the masked text is the plain one, and the readings differ.
    obtain ⟨hzero, hfaithful⟩ := hclean
    have hread := hfaithful '{' (cellGlyphs (covering ++ cells)) List.suffix_rfl
    have hmasked : maskedText (.plain '{' :: cellGlyphs (covering ++ cells)) =
        variableSource path ++ (extra ++ realText cells) := by
      rw [← htext]
      exact (realText_of_swallows_eq_zero hzero).symm
    rw [hmasked, cellGlyphs_append, hguarded, Variable.read?_variableSource _ hpath] at hread
    cases hread

end

/-- **The pass that replaces variables keeps two renderings side by side.**  It swallows a value
exactly where the text is not faithful, and what was swallowed before stays so. -/
theorem passes (context : Json) {cells : List Cell} (h : ∀ cell ∈ cells, cell.Sound) :
    Passes context cells := by
  induction hn : cells.length using Nat.strongRecOn generalizing cells with
  | ind n ih =>
      cases cells with
      | nil => exact passes_nil
      | cons cell cells =>
          have hcells : ∀ other ∈ cells, other.Sound :=
            fun other hother => h other (List.mem_cons_of_mem cell hother)
          have hlength : cells.length < n := by
            rw [← hn]
            exact Nat.lt_succ_self _
          have hnext := ih cells.length hlength hcells rfl
          cases cell with
          | value text => exact hnext.value text
          | swallowed span text => exact hnext.swallowed (h _ List.mem_cons_self)
          | plain c =>
              cases hguarded : Variable.read? (plainPrefix (.plain c :: cellGlyphs cells)) with
              | some found =>
                  obtain ⟨path, gs, hpath, hgs⟩ := exists_of_read?_plainPrefix hguarded
                  obtain ⟨hc, htail⟩ := List.cons.inj hgs
                  cases hc
                  obtain ⟨rest, rfl, -⟩ :=
                    exists_plain_cells hcells (brace_not_mem_variableTail hpath) htail
                  rw [List.length_append] at hlength
                  have hrest := ih rest.length (by omega)
                    (fun other hother => hcells other (List.mem_append_right _ hother)) rfl
                  exact hrest.read hpath
              | none =>
                  cases hplain : Variable.read? (c :: realText cells) with
                  | none => exact hnext.kept hguarded hplain
                  | some found =>
                      obtain ⟨path, tail, hpath, htext, -⟩ := Variable.read?_eq_some_iff.mp hplain
                      obtain ⟨rfl, htail⟩ := List.cons.inj htext
                      obtain ⟨covering, rest, extra, rfl, hreal, -, hbrace⟩ :=
                        exists_covering_cells hcells (brace_not_mem_variableTail hpath) htail
                      rw [List.length_append] at hlength
                      rw [cellGlyphs_append] at hguarded
                      have hrest := ih rest.length (by omega)
                        (fun other hother => hcells other (List.mem_append_right _ hother)) rfl
                      exact hrest.taken
                        (fun other hother => hcells other (List.mem_append_left _ hother))
                        hpath hreal hbrace hguarded

end Rulebook.Template
