/-
**Rendering a well-formed template yields its meaning.**

The renderer works on text: it decides the conditional blocks outside of loops, unrolls the loops by
rendering their bodies as templates of their own, and then replaces the variables of the whole,
rendered bodies included.  On the text of a block tree each pass is a walk over the tree.  The last
pass meets no variable but those of the tree, since the braces of a tree that are characters stand
for themselves and the braces of values are masked when a body has been rendered.  By induction on
the tree the three passes together write the tree with masked values, at every depth of nesting and
in every scope; for a tree without braces of its own this is its masked meaning.

Main definitions:

* `Rulebook.Template.Passage.decided` — a passage with the conditional blocks outside of loops
  decided;
* `Rulebook.Template.Passage.written` — a passage with masked values in the places of its variables.

Main results:

* `Rulebook.Template.renderScoped_written` — the three passes write a firm passage;
* `Rulebook.Template.renderScoped_source` — the three passes give the masked meaning;
* `Rulebook.Template.render_eq_meaning` — a well-formed template is rendered to its meaning.
-/

import Rulebook.Proofs.Template.Literal
import Rulebook.Proofs.Template.Scope
import Rulebook.Proofs.Template.Substitution
import Rulebook.Template.Render

set_option autoImplicit false

namespace Rulebook.Template

open Passage

/-! ### The first pass -/

/-- A passage with the conditional blocks outside of loops decided: such a block is its body, if its
condition holds, and goes away otherwise. -/
def Passage.decided (context : Json) : Passage → Passage
  | nil => nil
  | plain c rest => plain c (rest.decided context)
  | value path rest => value path (rest.decided context)
  | block .conditional content body rest =>
    if holds context (Text.trim content) then
      (body.decided context).append (rest.decided context)
    else rest.decided context
  | block .loop content body rest => block .loop content body (rest.decided context)

/-- What a passage begins with stays, though more may come behind it. -/
theorem exists_lead_decided (context : Json) (p : Passage) :
    ∃ more, (p.decided context).lead = p.lead ++ more := by
  induction p with
  | nil => exact ⟨[], rfl⟩
  | plain c rest ih =>
      obtain ⟨more, hmore⟩ := ih
      exact ⟨more, by rw [decided, lead, hmore, lead, List.cons_append]⟩
  | value path rest _ => exact ⟨[], rfl⟩
  | block kind content body rest _ _ => exact ⟨_, rfl⟩

theorem formed_decided (context : Json) {p : Passage} (hp : p.Formed) :
    (p.decided context).Formed := by
  induction p with
  | nil => trivial
  | plain c rest ih => exact ih hp
  | value path rest ih => exact ⟨hp.1, ih hp.2⟩
  | block kind content body rest ihbody ihrest =>
      obtain ⟨hcontent, hbody, hrest⟩ := hp
      cases kind with
      | loop => exact ⟨hcontent, hbody, ihrest hrest⟩
      | conditional =>
          rw [decided]
          split
          · exact formed_append (ihbody hbody) (ihrest hrest)
          · exact ihrest hrest

theorem literal_decided {q : List Char → Prop} (context : Json) {p : Passage} (hp : p.Literal q) :
    (p.decided context).Literal q := by
  induction p with
  | nil => trivial
  | plain c rest ih =>
      refine ⟨fun t => ?_, ih hp.2⟩
      obtain ⟨more, hmore⟩ := exists_lead_decided context rest
      rw [hmore, List.append_assoc]
      exact hp.1 (more ++ t)
  | value path rest ih => exact ih hp
  | block kind content body rest ihbody ihrest =>
      obtain ⟨hbody, hrest⟩ := hp
      cases kind with
      | loop => exact ⟨hbody, ihrest hrest⟩
      | conditional =>
          rw [decided]
          split
          · exact literal_append (ihbody hbody) (ihrest hrest)
          · exact ihrest hrest

theorem firm_decided (context : Json) {p : Passage} (hp : p.Firm) : (p.decided context).Firm :=
  ⟨formed_decided context hp.formed, literal_decided context hp.literal⟩

theorem length_body_lt (kind : BlockKind) (content : List Char) (body rest : Passage) :
    body.source.length < (block kind content body rest).source.length := by
  simp only [source, openingSource, List.length_append, List.length_cons]
  omega

theorem length_rest_le (kind : BlockKind) (content : List Char) (body rest : Passage) :
    rest.source.length ≤ (block kind content body rest).source.length := by
  simp only [source, List.length_append]
  omega

/-- What the first pass puts in the place of a block of a text of a given length. -/
def deciding (context : Json) (limit : Nat) (kind : BlockKind) (argument body : List Char) :
    Option (List Char) :=
  match kind with
  | .conditional =>
    if holds context argument then
      if body.length < limit then some (showConditionals context body) else some []
    else some []
  | .loop => none

theorem showConditionals_eq_spliced (context : Json) {p : Passage} (hp : p.Legible) :
    showConditionals context p.source = p.spliced (deciding context p.source.length) := by
  rw [showConditionals]
  exact splice_source (deciding context p.source.length) hp

theorem spliced_deciding (context : Json) {p : Passage} (hp : p.Legible) {limit : Nat}
    (hlimit : p.source.length ≤ limit) :
    p.spliced (deciding context limit) = (p.decided context).source := by
  induction p generalizing limit with
  | nil => rfl
  | plain c rest ih =>
      have hrest : rest.source.length ≤ limit := Nat.le_of_succ_le hlimit
      rw [spliced, ih hp.2 hrest, decided, source]
  | value path rest ih =>
      rw [source, List.length_append] at hlimit
      rw [spliced, ih hp.2 (by omega), decided, source]
  | block kind content body rest ihbody ihrest =>
      obtain ⟨-, hbody, hrest⟩ := hp
      have hbodyLimit := length_body_lt kind content body rest
      have hrestLimit := length_rest_le kind content body rest
      rw [spliced, ihrest hrest (by omega)]
      cases kind with
      | loop => simp [deciding, decided, source]
      | conditional =>
          -- The body is a text of its own, with its own length as the limit.
          have hshown : showConditionals context body.source = (body.decided context).source := by
            rw [showConditionals_eq_spliced context hbody, ihbody hbody (Nat.le_refl _)]
          by_cases hholds : holds context (Text.trim content) = true
          · rw [deciding, if_pos hholds, if_pos (by omega), hshown, decided, if_pos hholds,
              source_append]
            rfl
          · rw [deciding, if_neg hholds, decided, if_neg hholds]
            rfl

/-- **The first pass decides the conditional blocks outside of loops.** -/
theorem showConditionals_source (context : Json) {p : Passage} (hp : p.Legible) :
    showConditionals context p.source = (p.decided context).source := by
  rw [showConditionals_eq_spliced context hp, spliced_deciding context hp (Nat.le_refl _)]

/-! ### The second pass -/

/-- What the second pass puts in the place of a block. -/
def unrolling (renderBody : Json → List Char → List Char) (context : Json) (kind : BlockKind)
    (argument body : List Char) : Option (List Char) :=
  match kind with
  | .loop => some ((loopScopes context argument).flatMap fun scope => renderBody scope body)
  | .conditional => none

theorem unrollLoops_source (renderBody : Json → List Char → List Char) (context : Json)
    {p : Passage} (hp : p.Legible) :
    unrollLoops renderBody context p.source = p.spliced (unrolling renderBody context) :=
  splice_source (unrolling renderBody context) hp

theorem spliced_append (replace : BlockKind → List Char → List Char → Option (List Char))
    (p q : Passage) : (p.append q).spliced replace = p.spliced replace ++ q.spliced replace := by
  induction p with
  | nil => rfl
  | plain c rest ih => simp [append, spliced, ih]
  | value path rest ih => simp [append, spliced, ih]
  | block kind content body rest _ ih => simp [append, spliced, ih]

/-! ### The passes together -/

/-- How the bodies of the loops of a text of a given length are rendered. -/
def renderingWithin (limit : Nat) (scope : Json) (body : List Char) : List Char :=
  if body.length < limit then renderScoped scope body else []

theorem renderScoped_eq (context : Json) {p : Passage} (hp : p.Firm) :
    renderScoped context p.source =
      substitute context
        ((p.decided context).spliced (unrolling (renderingWithin p.source.length) context)) := by
  rw [renderScoped, showConditionals_source context (legible_of_firm hp)]
  exact congrArg (substitute context)
    (unrollLoops_source _ context (legible_of_firm (firm_decided context hp)))

/-- **A passage as it is written in a scope**: what it means there, with masked values, while its own
characters are left as they are. -/
def Passage.written : Passage → Json → List Char
  | nil, _ => []
  | plain c rest, context => c :: rest.written context
  | value path rest, context =>
    mask (displayOption (lookUp context path)) ++ rest.written context
  | block .conditional content body rest, context =>
    (if holds context (Text.trim content) then body.written context else []) ++
      rest.written context
  | block .loop content body rest, context =>
    ((loopScopes context (Text.trim content)).flatMap fun scope => body.written scope) ++
      rest.written context

theorem exists_written_eq (p : Passage) (context : Json) :
    ∃ more, p.written context = p.lead ++ more := by
  induction p with
  | nil => exact ⟨[], rfl⟩
  | plain c rest ih =>
      obtain ⟨more, hmore⟩ := ih
      exact ⟨more, by rw [written, hmore, lead, List.cons_append]⟩
  | value path rest _ => exact ⟨_, rfl⟩
  | block kind content body rest _ _ => exact ⟨_, rfl⟩

theorem exists_spliced_eq (replace : BlockKind → List Char → List Char → Option (List Char))
    (p : Passage) : ∃ more, p.spliced replace = p.lead ++ more := by
  induction p with
  | nil => exact ⟨[], rfl⟩
  | plain c rest ih =>
      obtain ⟨more, hmore⟩ := ih
      exact ⟨more, by rw [spliced, hmore, lead, List.cons_append]⟩
  | value path rest _ => exact ⟨_, rfl⟩
  | block kind content body rest _ _ => exact ⟨_, rfl⟩

/-- A character at which nothing is read whatever follows what comes behind it stays. -/
theorem substitute_cons_of_lead (context : Json) {c : Char} {start s more : List Char}
    (hread : ∀ t, Token.read? (c :: (start ++ t)) = none) (hs : s = start ++ more) :
    substitute context (c :: s) = c :: substitute context s := by
  refine substitute_cons_of_none context ?_
  rw [hs]
  exact (Token.read?_eq_none_iff.mp (hread more)).2

/-- The last pass takes texts one after the other as they are, if it takes each of them so. -/
theorem substitute_flatMap {α : Type} (context : Json) {f : α → List Char} (l : List α)
    (hf : ∀ a ∈ l, ∀ t, substitute context (f a ++ t) = f a ++ substitute context t)
    (t : List Char) : substitute context (l.flatMap f ++ t) = l.flatMap f ++ substitute context t := by
  induction l with
  | nil => rfl
  | cons a l ih =>
      obtain ⟨ha, hl⟩ := List.forall_mem_cons.mp hf
      rw [List.flatMap_cons, List.append_assoc, ha, ih hl, List.append_assoc]

/-- **What has been written is passed over**, by the last pass of the text around it. -/
theorem substitute_written (context : Json) {p : Passage} (hp : p.Firm) (scope : Json)
    (t : List Char) :
    substitute context (p.written scope ++ t) = p.written scope ++ substitute context t := by
  induction p generalizing scope t with
  | nil => rfl
  | plain c rest ih =>
      obtain ⟨hread, hrest⟩ := firm_plain_iff.mp hp
      obtain ⟨more, hmore⟩ := exists_written_eq rest scope
      rw [written, List.cons_append,
        substitute_cons_of_lead context hread (by rw [hmore, List.append_assoc]), ih hrest]
      rfl
  | value path rest ih =>
      obtain ⟨-, hrest⟩ := firm_value_iff.mp hp
      rw [written, List.append_assoc,
        substitute_append_of_not_mem context _ (brace_not_mem_mask _), ih hrest, List.append_assoc]
  | block kind content body rest ihbody ihrest =>
      obtain ⟨-, hbody, hrest⟩ := firm_block_iff.mp hp
      cases kind with
      | conditional =>
          rw [written, List.append_assoc, List.append_assoc]
          split
          · rw [ihbody hbody, ihrest hrest]
          · rw [List.nil_append, ihrest hrest, List.nil_append]
      | loop =>
          rw [written, List.append_assoc, List.append_assoc,
            substitute_flatMap context _ (fun scope _ => ihbody hbody scope), ihrest hrest]

/-- The second and the third pass over a decided passage write it, whatever text follows. -/
theorem substitute_spliced {p : Passage} (hp : p.Firm) {limit : Nat}
    (hlimit : p.source.length ≤ limit) (context : Json) (t : List Char) :
    substitute context
        ((p.decided context).spliced (unrolling (renderingWithin limit) context) ++ t) =
      p.written context ++ substitute context t := by
  induction p generalizing limit context t with
  | nil => rfl
  | plain c rest ih =>
      have hrestLimit : rest.source.length ≤ limit := Nat.le_of_succ_le hlimit
      obtain ⟨hread, hrest⟩ := firm_plain_iff.mp hp
      obtain ⟨more, hmore⟩ := exists_lead_decided context rest
      obtain ⟨after, hafter⟩ := exists_spliced_eq (unrolling (renderingWithin limit) context)
        (rest.decided context)
      have hstart : (rest.decided context).spliced (unrolling (renderingWithin limit) context) ++ t =
          rest.lead ++ (more ++ (after ++ t)) := by
        rw [hafter, hmore]
        simp only [List.append_assoc]
      rw [decided, spliced, List.cons_append, substitute_cons_of_lead context hread hstart,
        ih hrest hrestLimit]
      rfl
  | value path rest ih =>
      obtain ⟨hpath, hrest⟩ := firm_value_iff.mp hp
      rw [source, List.length_append] at hlimit
      rw [decided, spliced, List.append_assoc, substitute_variableSource context _ hpath,
        ih hrest (by omega), written, List.append_assoc]
  | block kind content body rest ihbody ihrest =>
      obtain ⟨-, hbody, hrest⟩ := firm_block_iff.mp hp
      have hbodyLimit := length_body_lt kind content body rest
      have hrestLimit := length_rest_le kind content body rest
      cases kind with
      | conditional =>
          rw [decided, written]
          split
          · rw [spliced_append, List.append_assoc, ihbody hbody (by omega),
              ihrest hrest (by omega), List.append_assoc]
          · rw [ihrest hrest (by omega)]
            rfl
      | loop =>
          -- Each item is rendered by the three passes, in a scope of its own.
          have hitem (scope : Json) :
              renderingWithin limit scope body.source = body.written scope := by
            have hpasses := ihbody hbody (Nat.le_refl _) scope []
            rw [List.append_nil, substitute_nil, List.append_nil] at hpasses
            rw [renderingWithin, if_pos (by omega), renderScoped_eq scope hbody, hpasses]
          have hitems : (unrolling (renderingWithin limit) context .loop (Text.trim content)
              body.source) =
                some ((loopScopes context (Text.trim content)).flatMap fun scope =>
                  body.written scope) := by
            simp only [unrolling, hitem]
          rw [decided, spliced, hitems, Option.getD_some, List.append_assoc,
            substitute_flatMap context _ (fun scope _ => substitute_written context hbody scope),
            ihrest hrest (by omega), written, List.append_assoc]

/-- **The three passes over the text of a firm passage write it.** -/
theorem renderScoped_written (context : Json) {p : Passage} (hp : p.Firm) :
    renderScoped context p.source = p.written context := by
  have h := substitute_spliced hp (Nat.le_refl _) context []
  rw [List.append_nil, substitute_nil, List.append_nil] at h
  rw [renderScoped_eq context hp, h]

/-- A passage without braces of its own is written as its masked meaning. -/
theorem written_eq_mask {p : Passage} (hp : p.Proper) (context : Json) :
    p.written context = mask (p.meaning context) := by
  induction p generalizing context with
  | nil => rfl
  | plain c rest ih => rw [written, meaning, ih hp.2, mask_cons_of_ne hp.1]
  | value path rest ih => rw [written, meaning, ih hp.2, mask_append]
  | block kind content body rest ihbody ihrest =>
      obtain ⟨-, hbody, hrest⟩ := hp
      cases kind with
      | conditional =>
          rw [written, meaning, ihbody hbody, ihrest hrest, mask_append]
          split <;> rfl
      | loop =>
          rw [written, meaning, ihrest hrest, mask_append, mask_flatMap]
          simp only [ihbody hbody]

/-- **The three passes over the text of a tree give its masked meaning.** -/
theorem renderScoped_source (context : Json) {p : Passage} (hp : p.Proper) :
    renderScoped context p.source = mask (p.meaning context) := by
  rw [renderScoped_written context (firm_of_proper hp), written_eq_mask hp]

/-! ### Stand-ins -/

/-- The meaning of a passage has no stand-in, if neither its text nor the context has one. -/
theorem standIn_not_mem_meaning {p : Passage} (hp : standIn ∉ p.source) {context : Json}
    (hcontext : context.Lacks standIn) : standIn ∉ p.meaning context := by
  induction p generalizing context with
  | nil => exact List.not_mem_nil
  | plain c rest ih =>
      rw [source, List.mem_cons, not_or] at hp
      rw [meaning, List.mem_cons, not_or]
      exact ⟨hp.1, ih hp.2 hcontext⟩
  | value path rest ih =>
      rw [source, List.mem_append, not_or] at hp
      rw [meaning, List.mem_append, not_or]
      exact ⟨not_mem_displayOption standIn_not_ascii hcontext path, ih hp.2 hcontext⟩
  | block kind content body rest ihbody ihrest =>
      simp only [source, List.mem_append, not_or] at hp
      obtain ⟨hopening, hbody, -, hrest⟩ := hp
      have hcontent : standIn ∉ content := by
        intro hmem
        exact hopening (by simp [openingSource, hmem])
      cases kind with
      | conditional =>
          rw [meaning, List.mem_append, not_or]
          refine ⟨?_, ihrest hrest hcontext⟩
          split
          · exact ihbody hbody hcontext
          · exact List.not_mem_nil
      | loop =>
          rw [meaning, List.mem_append, not_or]
          refine ⟨fun hmem => ?_, ihrest hrest hcontext⟩
          obtain ⟨scope, hscope, hmem⟩ := List.mem_flatMap.mp hmem
          have hlacks := lacks_of_mem_loopScopes (by decide) hcontext
            (not_mem_trim hcontent) hscope
          exact ihbody hbody hlacks hmem

/-! ### Rendering -/

/-- **A well-formed template is rendered to the meaning of its tree.**  The template is the text of
a proper tree, which the parser finds; and rendered against any context it gives what the tree means
there, as long as neither of them has the character that stands for a brace. -/
theorem render_eq_meaning {template : String} (h : WellFormed template.toList)
    (htemplate : standIn ∉ template.toList) :
    ∃ p, Passage.parse? template.toList = some p ∧ p.source = template.toList ∧ p.Proper ∧
      ∀ context : Json, context.Lacks standIn →
        render template context = String.ofList (p.meaning context) := by
  obtain ⟨p, hparse, hsource, hproper⟩ := h.exists_tree
  refine ⟨p, hparse, hsource, hproper, fun context hcontext => ?_⟩
  rw [← hsource] at htemplate
  rw [render, renderText, ← hsource, renderScoped_source context hproper,
    unmask_mask (standIn_not_mem_meaning htemplate hcontext)]

/-- A list of names with the ranks that each of them holds. -/
def roster : String :=
  Text.braced "#if people" ++ "All: " ++ Text.braced "#each people" ++ Text.braced "#if !@first" ++
    ", " ++ Text.braced "/if" ++ Text.braced "name" ++ Text.braced "#each ranks" ++ " <" ++
    Text.braced "this" ++ ">" ++ Text.braced "/each" ++ Text.braced "/each" ++ "." ++
    Text.braced "/if"

/-- Two people, the second of whom has a name with a brace. -/
def people : Json :=
  .object [("people", .array [
    .object [("name", .string "Ada"), ("ranks", .array [.string "x", .string "y"])],
    .object [("name", .string (Text.braced "name")), ("ranks", .array [])]])]

/-- The template of a roster is well formed, and is rendered to its meaning. -/
theorem render_roster :
    WellFormed roster.toList ∧ standIn ∉ roster.toList ∧ people.Lacks standIn ∧
      ∃ p, Passage.parse? roster.toList = some p ∧
        render roster people = String.ofList (p.meaning people) := by
  have hformed : WellFormed roster.toList := ⟨by decide +kernel, by decide +kernel⟩
  have hfree : standIn ∉ roster.toList := by decide +kernel
  have hpeople : people.Lacks standIn := by
    simp only [people, Json.Lacks, Json.LacksFields, Json.LacksItems]
    decide +kernel
  obtain ⟨p, hparse, -, -, hrender⟩ := render_eq_meaning hformed hfree
  exact ⟨hformed, hfree, hpeople, p, hparse, hrender people hpeople⟩

end Rulebook.Template
