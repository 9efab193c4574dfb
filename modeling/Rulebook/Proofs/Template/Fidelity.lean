/-
**Texts that are shown as they are.**

A text in which no tag and no variable can be read has nothing to be rendered, and a text between
variables is none of their business.  So both should come out as they went in, and so should the
texts of the values.  Each of them does but for one character.  The braces of values are masked by a
stand-in, and when a template has been rendered every stand-in becomes a brace, whoever put it
there; nothing tells one that masks a brace from one that a template or a value brought along.

Main definitions:

* `Rulebook.Template.Bare` — texts in which no tag and no variable can be read;
* `Rulebook.Template.Part` — plain texts and variables, the parts of simple templates;
* `Rulebook.Template.Verbatim` — simple templates, each with the text that should be shown for it.

Main results:

* `Rulebook.Template.renderScoped_of_bare` — the three passes leave a bare text as it is;
* `Rulebook.Template.render_verbatim` — **a simple template is shown** as it should be, but for
  stand-ins, all of which become braces: so it is shown as it should be exactly if there are none;
* `Rulebook.Template.not_always_verbatim` — a text that is not rendered to itself.
-/

import Rulebook.Proofs.Template.Meaning

set_option autoImplicit false

namespace Rulebook

/-! ### Pieces without tokens -/

/-- If no token can be read in a text, its pieces are its characters. -/
theorem Text.pieces_of_forall_none {α : Type} {read : List Char → Option (α × Nat)}
    {text : List Char} (h : ∀ rest, rest <:+ text → read rest = none) :
    Text.pieces read text = text.map .plain := by
  induction text with
  | nil => rw [Text.pieces, List.map_nil]
  | cons c text ih =>
      rw [Text.pieces_cons_of_none (h (c :: text) List.suffix_rfl),
        ih fun rest hrest => h rest (hrest.trans (List.suffix_cons c text))]
      rfl

theorem Text.placed_map_plain {α : Type} (start : Nat) (s : List Char) :
    Text.placed start (s.map (.plain : Char → Text.Piece α)) = [] := by
  induction s generalizing start with
  | nil => rfl
  | cons c s ih => exact ih (start + 1)

namespace Template

/-! ### Bare texts -/

/-- No tag and no variable can be read at any place of a text. -/
def Bare (text : List Char) : Prop :=
  ∀ rest, rest <:+ text → Tag.read? rest = none ∧ Variable.read? rest = none

/-- A text without opening braces is bare. -/
theorem bare_of_not_mem {text : List Char} (h : '{' ∉ text) : Bare text := by
  intro rest hrest
  cases rest with
  | nil => exact ⟨rfl, rfl⟩
  | cons c rest =>
      have hc : c ≠ '{' := by
        rintro rfl
        exact h (hrest.subset List.mem_cons_self)
      exact ⟨beginsAtBrace_tag c rest hc, beginsAtBrace_variable c rest hc⟩

/-- There is no block in a bare text, so nothing is replaced. -/
theorem splice_of_bare {text : List Char} (h : Bare text)
    (expand : Block → Option (List Char)) : splice text expand = text := by
  have hmarks : marks text = [] := by
    rw [marks, Text.placedTokens, Text.pieces_of_forall_none fun rest hrest => (h rest hrest).1,
      Text.placed_map_plain, List.map_nil]
  have houter : outerBlocks (marks text) = [] := by
    rw [hmarks]
    simp [outerBlocks, matchedBlocks, matchMarks]
  rw [splice, houter, spliceFrom, List.drop_zero]

theorem substitute_of_bare (context : Json) {text : List Char} (h : Bare text) :
    substitute context text = text := by
  rw [substitute, Text.pieces_of_forall_none fun rest hrest => (h rest hrest).2,
    flatMap_substitutePiece_plain]

/-- **The three passes leave a bare text as it is.** -/
theorem renderScoped_of_bare (context : Json) {text : List Char} (h : Bare text) :
    renderScoped context text = text := by
  rw [renderScoped, showConditionals, splice_of_bare h, unrollLoops, splice_of_bare h,
    substitute_of_bare context h]

/-! ### Simple templates -/

/-- A part of a simple template. -/
inductive Part where
  /-- A text without variables. -/
  | text (s : List Char)
  /-- A place for the value at a path. -/
  | value (path : List Char)

/-- How a part is written. -/
def Part.source : Part → List Char
  | text s => s
  | value path => variableSource path

/-- A text of its own has no opening brace, and a path has its form. -/
def Part.Proper : Part → Prop
  | text s => '{' ∉ s
  | value path => IsPath path

/-- What should be shown for a part: the text itself, or the text of the value. -/
def Part.shown (context : Json) : Part → List Char
  | text s => s
  | value path => displayOption (lookUp context path)

/-- A simple template, as it is written. -/
def sourceOf (parts : List Part) : List Char := parts.flatMap Part.source

/-- What should be shown for the parts of a simple template, one behind the other. -/
def shownOf (context : Json) (parts : List Part) : List Char := parts.flatMap (Part.shown context)

/-- **What a template should show.**  A bare text should show itself, and parts should show what
each of them does, on their own and as the body of a loop, for each item of it. -/
inductive Verbatim (context : Json) : List Char → List Char → Prop where
  /-- A text with nothing to be rendered. -/
  | bare {text : List Char} (h : Bare text) : Verbatim context text text
  /-- Texts and variables. -/
  | parts {parts : List Part} (h : ∀ part ∈ parts, part.Proper) :
      Verbatim context (sourceOf parts) (shownOf context parts)
  /-- A loop over texts and variables, and texts and variables around it. -/
  | loop {before body after : List Part} {content : List Char} (hcontent : IsContent content)
      (hbefore : ∀ part ∈ before, part.Proper) (hbody : ∀ part ∈ body, part.Proper)
      (hafter : ∀ part ∈ after, part.Proper) :
      Verbatim context
        (sourceOf before ++
          (openingSource .loop content ++
            (sourceOf body ++ (closingSource .loop ++ sourceOf after))))
        (shownOf context before ++
          (((loopScopes context (Text.trim content)).flatMap fun scope => shownOf scope body) ++
            shownOf context after))

/-- A text without braces is a passage that means itself. -/
theorem exists_passage_of_not_mem {s : List Char} (h : '{' ∉ s) :
    ∃ p : Passage, p.Proper ∧ p.source = s ∧ ∀ context, p.meaning context = s := by
  induction s with
  | nil => exact ⟨.nil, trivial, rfl, fun context => rfl⟩
  | cons c s ih =>
      rw [List.mem_cons, not_or] at h
      obtain ⟨p, hproper, hsource, hmeaning⟩ := ih h.2
      refine ⟨.plain c p, ⟨Ne.symm h.1, hproper⟩, ?_, fun context => ?_⟩
      · rw [Passage.source, hsource]
      · rw [Passage.meaning, hmeaning]

/-- The parts of a simple template are a passage that means what should be shown for them. -/
theorem exists_passage_of_parts {parts : List Part} (h : ∀ part ∈ parts, part.Proper) :
    ∃ p : Passage, p.Proper ∧ p.source = sourceOf parts ∧
      ∀ context, p.meaning context = shownOf context parts := by
  induction parts with
  | nil => exact ⟨.nil, trivial, rfl, fun context => rfl⟩
  | cons part parts ih =>
      obtain ⟨hpart, hparts⟩ := List.forall_mem_cons.mp h
      obtain ⟨p, hproper, hsource, hmeaning⟩ := ih hparts
      cases part with
      | text s =>
          obtain ⟨q, hq, hqsource, hqmeaning⟩ := exists_passage_of_not_mem hpart
          refine ⟨q.append p, Passage.proper_append hq hproper, ?_, fun context => ?_⟩
          · rw [Passage.source_append, hqsource, hsource]
            rfl
          · rw [Passage.meaning_append, hqmeaning, hmeaning]
            rfl
      | value path =>
          refine ⟨.value path p, ⟨hpart, hproper⟩, ?_, fun context => ?_⟩
          · rw [Passage.source, hsource]
            rfl
          · rw [Passage.meaning, hmeaning]
            rfl

/-! ### Rendering -/

variable {context : Json}

/-- A simple template that is not bare is a passage that means what it should show. -/
theorem Verbatim.bare_or_passage {text shown : List Char} (h : Verbatim context text shown) :
    (Bare text ∧ shown = text) ∨
      ∃ p : Passage, p.Proper ∧ p.source = text ∧ p.meaning context = shown := by
  cases h with
  | bare h => exact Or.inl ⟨h, rfl⟩
  | parts h =>
      obtain ⟨p, hproper, hsource, hmeaning⟩ := exists_passage_of_parts h
      exact Or.inr ⟨p, hproper, hsource, hmeaning context⟩
  | @loop before body after content hcontent hbefore hbody hafter =>
      obtain ⟨p, hp, hpsource, hpmeaning⟩ := exists_passage_of_parts hbefore
      obtain ⟨q, hq, hqsource, hqmeaning⟩ := exists_passage_of_parts hbody
      obtain ⟨r, hr, hrsource, hrmeaning⟩ := exists_passage_of_parts hafter
      refine Or.inr ⟨p.append (.block .loop content q r), ?_, ?_, ?_⟩
      · exact Passage.proper_append hp ⟨hcontent, hq, hr⟩
      · rw [Passage.source_append, Passage.source, hpsource, hqsource, hrsource]
      · rw [Passage.meaning_append, Passage.meaning, hpmeaning, hrmeaning]
        simp only [hqmeaning]

/-- What a simple template should show is shown, with braces for stand-ins. -/
theorem renderText_of_verbatim {text shown : List Char} (h : Verbatim context text shown) :
    renderText context text = unmask shown := by
  obtain ⟨hbare, rfl⟩ | ⟨p, hproper, rfl, rfl⟩ := h.bare_or_passage
  · rw [renderText, renderScoped_of_bare context hbare]
  · rw [renderText, renderScoped_source context hproper, unmask_mask_eq]

/-- Stand-ins come from the template or from the context. -/
theorem Verbatim.standIn_not_mem {text shown : List Char} (h : Verbatim context text shown)
    (htext : standIn ∉ text) (hcontext : context.Lacks standIn) : standIn ∉ shown := by
  obtain ⟨-, rfl⟩ | ⟨p, -, rfl, rfl⟩ := h.bare_or_passage
  · exact htext
  · exact standIn_not_mem_meaning htext hcontext

/-- **A simple template is shown** with braces for all stand-ins, those of the template and those of
the values.  So what it should show is shown exactly if that has no stand-in; and it has none if
neither the template nor the context has one. -/
theorem render_verbatim {template : String} {shown : List Char}
    (h : Verbatim context template.toList shown) :
    render template context = String.ofList (unmask shown) ∧
      (render template context = String.ofList shown ↔ standIn ∉ shown) ∧
      (standIn ∉ template.toList → context.Lacks standIn →
        render template context = String.ofList shown) := by
  have hrender : render template context = String.ofList (unmask shown) := by
    rw [render, renderText_of_verbatim h]
  have hiff : render template context = String.ofList shown ↔ standIn ∉ shown := by
    rw [hrender, String.ofList_inj, unmask_eq_self_iff]
  exact ⟨hrender, hiff, fun htemplate hcontext =>
    hiff.mpr (h.standIn_not_mem htemplate hcontext)⟩

/-- A list with a line for each item, and a text and a name behind it. -/
def menu : String :=
  "Menu:" ++ Text.braced "#each drinks" ++ "\n- " ++ Text.braced "this" ++ Text.braced "/each" ++
    "\n" ++ Text.braced "host"

/-- What is on the list; braces, quotes and other scripts are allowed. -/
def cellar : Json :=
  .object [("drinks", .array [.string ("caffè " ++ Text.braced "corto"), .string "茶"]), ("host", .string "Zoë")]

/-- What the list should look like. -/
def menuText : String := "Menu:\n- caffè " ++ Text.braced "corto" ++ "\n- 茶\nZoë"

/-- A list is shown item by item, as the items are. -/
theorem render_menu :
    Verbatim cellar menu.toList menuText.toList ∧ render menu cellar = menuText := by
  have hcontent : IsContent " drinks".toList :=
    ⟨List.all_eq_true.mp (by decide +kernel), ' ', _, rfl, by decide +kernel⟩
  have hthis : IsPath "this".toList :=
    Or.inl ⟨'t', _, rfl, by decide +kernel, List.all_eq_true.mp (by decide +kernel)⟩
  have hhost : IsPath "host".toList :=
    Or.inl ⟨'h', _, rfl, by decide +kernel, List.all_eq_true.mp (by decide +kernel)⟩
  have hloop := @Verbatim.loop cellar [.text "Menu:".toList]
    [.text "\n- ".toList, .value "this".toList] [.text "\n".toList, .value "host".toList]
    " drinks".toList hcontent
    (List.forall_mem_singleton.mpr (by decide +kernel : '{' ∉ "Menu:".toList))
    (List.forall_mem_cons.mpr
      ⟨(by decide +kernel : '{' ∉ "\n- ".toList), List.forall_mem_singleton.mpr hthis⟩)
    (List.forall_mem_cons.mpr
      ⟨(by decide +kernel : '{' ∉ "\n".toList), List.forall_mem_singleton.mpr hhost⟩)
  have hverbatim : Verbatim cellar menu.toList menuText.toList := by
    refine Eq.mp (congrArg₂ (Verbatim cellar) ?_ ?_) hloop
    · decide +kernel
    · decide +kernel
  refine ⟨hverbatim, ?_⟩
  rw [(render_verbatim hverbatim).2.1.mpr (by decide +kernel), String.ofList_toList]

/-- **Not every text is shown as it is.**  A text that is a stand-in, and nothing else, is bare, and
a brace is shown for it; so it is for a value. -/
theorem not_always_verbatim :
    (¬ ∀ (context : Json) (template : String) (shown : List Char),
      Verbatim context template.toList shown →
        render template context = String.ofList shown) ∧
      render (Text.braced "x") (.object [("x", .string (String.ofList [standIn]))]) =
        String.singleton '{' := by
  refine ⟨fun h => ?_, by decide +kernel⟩
  have hbare : Bare [standIn] := bare_of_not_mem (by decide)
  have heq := h (.object []) (String.ofList [standIn]) [standIn]
    (by rw [String.toList_ofList]; exact .bare hbare)
  exact absurd heq (by decide +kernel)

end Template

end Rulebook
