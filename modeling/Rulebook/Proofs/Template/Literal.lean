/-
**Braces that stand for themselves.**

A template may have braces that begin neither a tag nor a variable, as the code in a prompt does.
Rendering takes the tags and variables of a template away and puts other text in their places, so
that what follows such a brace may change, but only from the next tag or variable on: up to there
the characters stay as they are.  If these characters keep the brace from beginning a tag or a
variable, whatever comes behind them, then it stands for itself in all passes of the renderer.

Main definitions:

* `Rulebook.Template.Passage.lead` — the characters that a passage begins with;
* `Rulebook.Template.Passage.Literal` — what holds of the characters of a passage, whatever follows
  the characters behind them;
* `Rulebook.Template.Passage.Firm` — the braces of a passage stand for themselves.

Main results:

* `Rulebook.Template.legible_of_firm` — the tags and variables in the text of a firm passage are
  those that it is made of;
* `Rulebook.Template.formed_of_parse?` — the parser finds passages of the right form.
-/

import Rulebook.Proofs.Template.Splicing
import Rulebook.Proofs.Template.WellFormed

set_option autoImplicit false

namespace Rulebook.Template

open Passage

namespace Passage

/-- The characters that a passage begins with, up to its first variable or block. -/
def lead : Passage → List Char
  | plain c rest => c :: rest.lead
  | nil => []
  | value _ _ => []
  | block _ _ _ _ => []

/-- The paths and the contents of tags have their form. -/
def Formed : Passage → Prop
  | nil => True
  | plain _ rest => rest.Formed
  | value path rest => IsPath path ∧ rest.Formed
  | block _ content body rest => IsContent content ∧ body.Formed ∧ rest.Formed

/-- At each of its own characters the passage satisfies `q`, whatever follows the characters that
come behind it. -/
def Literal (q : List Char → Prop) : Passage → Prop
  | nil => True
  | plain c rest => (∀ t, q (c :: (rest.lead ++ t))) ∧ rest.Literal q
  | value _ rest => rest.Literal q
  | block _ _ body rest => body.Literal q ∧ rest.Literal q

/-- The passage is of the right form, and nothing is read at its own characters. -/
structure Firm (p : Passage) : Prop where
  /-- The paths and the contents of tags have their form. -/
  formed : p.Formed
  /-- No tag and no variable begins at a character of the passage. -/
  literal : p.Literal fun s => Token.read? s = none

theorem firm_plain_iff {c : Char} {rest : Passage} :
    (plain c rest).Firm ↔ (∀ t, Token.read? (c :: (rest.lead ++ t)) = none) ∧ rest.Firm := by
  constructor
  · rintro ⟨hformed, hread, hliteral⟩
    exact ⟨hread, hformed, hliteral⟩
  · rintro ⟨hread, hformed, hliteral⟩
    exact ⟨hformed, hread, hliteral⟩

theorem firm_value_iff {path : List Char} {rest : Passage} :
    (value path rest).Firm ↔ IsPath path ∧ rest.Firm := by
  constructor
  · rintro ⟨⟨hpath, hformed⟩, hliteral⟩
    exact ⟨hpath, hformed, hliteral⟩
  · rintro ⟨hpath, hformed, hliteral⟩
    exact ⟨⟨hpath, hformed⟩, hliteral⟩

theorem firm_block_iff {kind : BlockKind} {content : List Char} {body rest : Passage} :
    (block kind content body rest).Firm ↔ IsContent content ∧ body.Firm ∧ rest.Firm := by
  constructor
  · rintro ⟨⟨hcontent, hbody, hrest⟩, hbodyLiteral, hrestLiteral⟩
    exact ⟨hcontent, ⟨hbody, hbodyLiteral⟩, ⟨hrest, hrestLiteral⟩⟩
  · rintro ⟨hcontent, ⟨hbody, hbodyLiteral⟩, ⟨hrest, hrestLiteral⟩⟩
    exact ⟨⟨hcontent, hbody, hrest⟩, hbodyLiteral, hrestLiteral⟩

theorem Literal.imp {q r : List Char → Prop} {p : Passage} (h : p.Literal q)
    (hqr : ∀ s, q s → r s) : p.Literal r := by
  induction p with
  | nil => trivial
  | plain c rest ih => exact ⟨fun t => hqr _ (h.1 t), ih h.2⟩
  | value path rest ih => exact ih h
  | block kind content body rest ihbody ihrest => exact ⟨ihbody h.1, ihrest h.2⟩

/-! ### The text of a firm passage -/

theorem exists_source_eq (p : Passage) : ∃ more, p.source = p.lead ++ more := by
  induction p with
  | nil => exact ⟨[], rfl⟩
  | plain c rest ih =>
      obtain ⟨more, hmore⟩ := ih
      exact ⟨more, by rw [source, hmore, lead, List.cons_append]⟩
  | value path rest _ => exact ⟨_, rfl⟩
  | block kind content body rest _ _ => exact ⟨_, rfl⟩

theorem formed_of_proper {p : Passage} (hp : p.Proper) : p.Formed := by
  induction p with
  | nil => trivial
  | plain c rest ih => exact ih hp.2
  | value path rest ih => exact ⟨hp.1, ih hp.2⟩
  | block kind content body rest ihbody ihrest => exact ⟨hp.1, ihbody hp.2.1, ihrest hp.2.2⟩

/-- What holds at every character that is no opening brace holds in a proper passage. -/
theorem literal_of_proper {q : List Char → Prop} (hq : ∀ c s, c ≠ '{' → q (c :: s))
    {p : Passage} (hp : p.Proper) : p.Literal q := by
  induction p with
  | nil => trivial
  | plain c rest ih => exact ⟨fun t => hq c _ hp.1, ih hp.2⟩
  | value path rest ih => exact ih hp.2
  | block kind content body rest ihbody ihrest => exact ⟨ihbody hp.2.1, ihrest hp.2.2⟩

end Passage

/-- A passage without braces of its own is firm. -/
theorem firm_of_proper {p : Passage} (hp : p.Proper) : p.Firm :=
  ⟨formed_of_proper hp, literal_of_proper (fun _ s hc => Token.read?_cons_of_ne hc s) hp⟩

/-- **The tags and variables in the text of a firm passage** are those that it is made of, whatever
follows it. -/
theorem legible_of_firm {p : Passage} (hp : p.Firm) : p.Legible := by
  induction p with
  | nil => trivial
  | plain c rest ih =>
      obtain ⟨hread, hrest⟩ := firm_plain_iff.mp hp
      refine ⟨fun t => ?_, ih hrest⟩
      obtain ⟨more, hmore⟩ := rest.exists_source_eq
      rw [hmore, List.append_assoc]
      exact hread (more ++ t)
  | value path rest ih =>
      obtain ⟨hpath, hrest⟩ := firm_value_iff.mp hp
      exact ⟨hpath, ih hrest⟩
  | block kind content body rest ihbody ihrest =>
      obtain ⟨hcontent, hbody, hrest⟩ := firm_block_iff.mp hp
      exact ⟨hcontent, ihbody hbody, ihrest hrest⟩

theorem legible_of_proper {p : Passage} (hp : p.Proper) : p.Legible :=
  legible_of_firm (firm_of_proper hp)

/-! ### Passages that are put together -/

namespace Passage

theorem exists_lead_append (p q : Passage) : ∃ more, (p.append q).lead = p.lead ++ more := by
  induction p with
  | nil => exact ⟨q.lead, rfl⟩
  | plain c rest ih =>
      obtain ⟨more, hmore⟩ := ih
      exact ⟨more, by rw [append, lead, hmore, lead, List.cons_append]⟩
  | value path rest _ => exact ⟨[], rfl⟩
  | block kind content body rest _ _ => exact ⟨[], rfl⟩

theorem formed_append {p q : Passage} (hp : p.Formed) (hq : q.Formed) : (p.append q).Formed := by
  induction p with
  | nil => exact hq
  | plain c rest ih => exact ih hp
  | value path rest ih => exact ⟨hp.1, ih hp.2⟩
  | block kind content body rest _ ih => exact ⟨hp.1, hp.2.1, ih hp.2.2⟩

theorem literal_append {q : List Char → Prop} {p p' : Passage} (hp : p.Literal q)
    (hp' : p'.Literal q) : (p.append p').Literal q := by
  induction p with
  | nil => exact hp'
  | plain c rest ih =>
      refine ⟨fun t => ?_, ih hp.2⟩
      obtain ⟨more, hmore⟩ := rest.exists_lead_append p'
      rw [hmore, List.append_assoc]
      exact hp.1 (more ++ t)
  | value path rest ih => exact ih hp
  | block kind content body rest _ ih => exact ⟨hp.1, ih hp.2⟩

/-- The parser finds passages of the right form. -/
theorem formed_of_parse? {text : List Char} {p : Passage} (h : parse? text = some p) :
    p.Formed := by
  have hempty : Passage.nil.Formed := trivial
  refine of_assemble? hempty (fun _ _ => formed_append) (fun path hpath => ?_)
    (fun kind content body hcontent hbody => ?_) (fun c rest _ _ => hempty)
    (fun frame hframe => ?_) hempty h
  · exact ⟨hpath, hempty⟩
  · exact ⟨hcontent, hbody, hempty⟩
  · cases hframe

end Passage

end Rulebook.Template
