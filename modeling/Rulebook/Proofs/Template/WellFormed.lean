/-
**Which templates have a tree.**

A template is well formed if the check of templates finds no fault in it and each of its braces
begins a tag or a variable.  The tags of a template without faults are balanced; the parser goes
through tags and variables with a stack of its own, which moves with the tags, so that such a
template is read to its end with no block left open.  What it is read as is proper if no brace is
left over.

Main definitions:

* `Rulebook.Template.Braced`, `Rulebook.Template.WellFormed` — well-formed templates.

Main results:

* `Rulebook.Template.Passage.of_assemble?` — a property of what the parser makes of a text;
* `Rulebook.Template.exists_parse?_of_isValid` — a template that the check accepts has a tree;
* `Rulebook.Template.WellFormed.exists_tree` — a well-formed template is the text of a proper tree,
  and the parser finds it.
-/

import Mathlib.Data.List.Infix
import Rulebook.Proofs.Template.Grammar

set_option autoImplicit false

namespace Rulebook.Template

/-! ### Well-formed templates -/

/-- Every opening brace begins a tag or a variable. -/
def Braced (text : List Char) : Prop :=
  ∀ s, s <:+ text → s.head? = some '{' → (Tag.read? s).isSome ∨ (Variable.read? s).isSome

instance (text : List Char) : Decidable (Braced text) :=
  decidable_of_iff (∀ s ∈ text.tails, s.head? = some '{' →
      (Tag.read? s).isSome ∨ (Variable.read? s).isSome) <| by
    simp only [List.mem_tails, Braced]

/-- No fault is found in the template, and its braces are those of tags and variables. -/
structure WellFormed (text : List Char) : Prop where
  /-- The check of templates accepts it. -/
  valid : isValid text = true
  /-- Every opening brace begins a tag or a variable. -/
  braced : Braced text

theorem Braced.of_suffix {s text : List Char} (h : Braced text) (hs : s <:+ text) : Braced s :=
  fun t ht => h t (ht.trans hs)

/-- Where no token is read, there is no brace. -/
theorem Braced.ne_brace {c : Char} {rest : List Char} (h : Braced (c :: rest))
    (hread : Token.read? (c :: rest) = none) : c ≠ '{' := by
  rintro rfl
  unfold Token.read? at hread
  obtain htag | hvariable := h _ List.suffix_rfl rfl
  · obtain ⟨⟨tag, length⟩, hfound⟩ := Option.isSome_iff_exists.mp htag
    rw [hfound] at hread
    cases tag <;> cases hread
  · obtain ⟨found, hfound⟩ := Option.isSome_iff_exists.mp hvariable
    split at hread
    · cases hread
    · cases hread
    · rw [hfound] at hread
      cases hread

/-! ### The parser -/

namespace Passage

/-- The parser gets through tags that nest. -/
theorem isSome_assemble? {text : List Char} {frames : List Frame} {p : Passage}
    (h : Nests (frames.map Frame.kind) (tagsIn text)) :
    (assemble? frames p (Text.pieces Token.read? text)).isSome := by
  induction text using Token.text_induction generalizing frames p with
  | nil =>
      cases frames with
      | nil => simp [Text.pieces, assemble?]
      | cons frame frames => simp [tagsIn, Text.pieces, Nests] at h
  | plain c rest hread ih =>
      rw [tagsIn_plain hread] at h
      rw [Text.pieces_cons_of_none hread, assemble?]
      exact ih h
  | token t rest hproper ih =>
      rw [tagsIn_token rest hproper] at h
      rw [Token.pieces_source t rest hproper]
      cases t with
      | opening kind content =>
          have hinner : Nests ((⟨p, kind, content⟩ :: frames : List Frame).map Frame.kind)
              (tagsIn rest) := h
          rw [assemble?]
          exact ih hinner
      | closing kind =>
          cases frames with
          | nil => exact h.elim
          | cons frame frames =>
              obtain ⟨hkind, hrest⟩ := h
              rw [assemble?, if_pos hkind]
              exact ih hrest
      | value path =>
          rw [assemble?]
          exact ih h

/-- **What the parser makes of a text** has every property that the characters, variables and blocks
it is made of give to it. -/
theorem of_assemble? {P : Passage → Prop} (hnil : P .nil)
    (happend : ∀ p q : Passage, P p → P q → P (p.append q))
    (hvalue : ∀ path, IsPath path → P (.value path .nil))
    (hblock : ∀ kind content body, IsContent content → P body → P (.block kind content body .nil))
    {text : List Char}
    (hplain : ∀ c rest, c :: rest <:+ text → Token.read? (c :: rest) = none → P (.plain c .nil))
    {frames : List Frame} {p q : Passage}
    (hframes : ∀ frame ∈ frames, P frame.before ∧ IsContent frame.content) (hp : P p)
    (h : assemble? frames p (Text.pieces Token.read? text) = some q) : P q := by
  induction text using Token.text_induction generalizing frames p with
  | nil =>
      rw [Text.pieces] at h
      cases frames with
      | nil =>
          cases h
          exact hp
      | cons frame frames => cases h
  | plain c rest hread ih =>
      rw [Text.pieces_cons_of_none hread, assemble?] at h
      have hc : P (.plain c .nil) := hplain c rest List.suffix_rfl hread
      have hrest : ∀ d more, d :: more <:+ rest → Token.read? (d :: more) = none →
          P (.plain d .nil) :=
        fun d more hsuffix => hplain d more (hsuffix.trans (List.suffix_cons c rest))
      exact ih hrest hframes (happend p _ hp hc) h
  | token t rest hproper ih =>
      have hrest : ∀ d more, d :: more <:+ rest → Token.read? (d :: more) = none →
          P (.plain d .nil) :=
        fun d more hsuffix => hplain d more (hsuffix.trans (List.suffix_append t.source rest))
      rw [Token.pieces_source t rest hproper] at h
      cases t with
      | opening kind content =>
          rw [assemble?] at h
          have hframe : P (⟨p, kind, content⟩ : Frame).before ∧
              IsContent (⟨p, kind, content⟩ : Frame).content := ⟨hp, hproper⟩
          exact ih hrest (List.forall_mem_cons.mpr ⟨hframe, hframes⟩) hnil h
      | closing kind =>
          cases frames with
          | nil => cases h
          | cons frame frames =>
              rw [assemble?] at h
              obtain ⟨⟨hbefore, hcontent⟩, hframes⟩ := List.forall_mem_cons.mp hframes
              split at h
              · have hclosed := hblock kind frame.content p hcontent hp
                exact ih hrest hframes (happend frame.before _ hbefore hclosed) h
              · cases h
      | value path =>
          rw [assemble?] at h
          exact ih hrest hframes (happend p _ hp (hvalue path hproper)) h

/-- What the parser makes of a text whose braces are accounted for is proper. -/
theorem proper_of_parse? {text : List Char} (hbraced : Braced text) {p : Passage}
    (h : parse? text = some p) : p.Proper := by
  have hempty : Passage.nil.Proper := trivial
  refine of_assemble? hempty (fun _ _ => proper_append) (fun path hpath => ?_)
    (fun kind content body hcontent hbody => ?_) (fun c rest hsuffix hread => ?_)
    (fun frame hframe => ?_) hempty h
  · exact ⟨hpath, hempty⟩
  · exact ⟨hcontent, hbody, hempty⟩
  · exact ⟨(hbraced.of_suffix hsuffix).ne_brace hread, hempty⟩
  · cases hframe

end Passage

/-- A template that the check accepts is the text of the tree that the parser finds. -/
theorem exists_parse?_of_isValid {text : List Char} (h : isValid text = true) :
    ∃ p, Passage.parse? text = some p ∧ p.source = text := by
  have hnests : Nests [] (tagsIn text) := by
    rw [← tag_marks]
    exact nests_nil_iff_balanced.mpr (grammatical_of_isValid h).balanced
  have hsome : (Passage.parse? text).isSome := Passage.isSome_assemble? hnests
  obtain ⟨p, hp⟩ := Option.isSome_iff_exists.mp hsome
  exact ⟨p, hp, Passage.source_of_parse? hp⟩

/-- **A well-formed template is the text of a proper tree**, which is the one that the parser
finds. -/
theorem WellFormed.exists_tree {text : List Char} (h : WellFormed text) :
    ∃ p, Passage.parse? text = some p ∧ p.source = text ∧ p.Proper := by
  obtain ⟨p, hparse, hsource⟩ := exists_parse?_of_isValid h.valid
  exact ⟨p, hparse, hsource, Passage.proper_of_parse? h.braced hparse⟩

end Rulebook.Template
