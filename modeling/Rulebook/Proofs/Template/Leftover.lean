/-
**No directive is left over.**

The check of templates looks at the first letter of a directive only, and at opening keywords that
are whole words.  So a directive with one of the four letters that is not one of the two keywords is
accepted, and is shown as it stands (`Rulebook.Template.not_all_rejected`).  Rendering can also put
a brace of the template in front of a text that it did not stand in front of.

A brace that begins no tag and no variable is settled if the characters behind it, up to the next
variable or block, keep it from beginning any of these or a directive, whatever comes behind them.
If the braces of an accepted template are settled, and the context has no braces, then there is
nothing in the rendered text that begins like a directive: its braces are those of the template,
with the same characters behind them, and those around the objects that are shown as values.

Main definitions:

* `Rulebook.Template.IsDirective` — a text begins like a directive;
* `Rulebook.Template.Settled` — a text begins with nothing that the renderer or a reader of its
  output would take for more than characters;
* `Rulebook.Template.Passage.isSpaced` — behind each brace of a passage stands a character that
  settles it.

Main results:

* `Rulebook.Template.literal_settled_of_isSpaced` — a blank, a quote or a digit behind a brace
  settles it, among others;
* `Rulebook.Template.directive_of_isValid` — the directives of an accepted template;
* `Rulebook.Template.throughout_written` — what is written from settled braces;
* `Rulebook.Template.no_directive_left` — **accepted templates with settled braces leave no
  directive in the text that they are rendered to**.
-/

import Rulebook.Proofs.Template.Meaning

set_option autoImplicit false

namespace Rulebook.Template

open Passage
open Text (Throughout throughout_append throughout_flatMap)

/-! ### Directives -/

/-- A text begins like a directive: with a brace, `#` and a letter, or with a closing tag. -/
def IsDirective (s : List Char) : Prop :=
  (∃ letter rest, s = '{' :: '#' :: letter :: rest ∧ letter.isAlpha = true) ∨
    ∃ kind rest, s = closingSource kind ++ rest

/-- A text begins with no tag and no variable, nor like a directive. -/
def Settled (s : List Char) : Prop := Token.read? s = none ∧ ¬ IsDirective s

/-- A directive has its second character right behind the brace. -/
theorem exists_of_isDirective {s : List Char} (h : IsDirective s) :
    ∃ rest, s = '{' :: rest ∧ (rest.head? = some '#' ∨ rest.head? = some '/') := by
  rcases h with ⟨letter, rest, rfl, -⟩ | ⟨kind, rest, rfl⟩
  · exact ⟨_, rfl, .inl rfl⟩
  · exact ⟨_, rfl, .inr rfl⟩

theorem settled_of_ne {c : Char} (hc : c ≠ '{') (s : List Char) : Settled (c :: s) := by
  refine ⟨Token.read?_cons_of_ne hc s, fun h => ?_⟩
  obtain ⟨rest, heq, -⟩ := exists_of_isDirective h
  exact hc (List.cons.inj heq).1

/-- Whether a character keeps a brace in front of it from beginning anything. -/
def isSpacer (c : Char) : Bool := c != '#' && c != '/' && c != '@' && !isNameStart c

theorem settled_of_isSpacer {c : Char} (hc : isSpacer c = true) (s : List Char) :
    Settled ('{' :: c :: s) := by
  simp only [isSpacer, Bool.and_eq_true, bne_iff_ne, Bool.not_eq_true'] at hc
  obtain ⟨⟨⟨hhash, hslash⟩, hat⟩, hstart⟩ := hc
  constructor
  · rw [Option.eq_none_iff_forall_ne_some]
    intro found hfound
    obtain ⟨token, rest, hproper, heq, -⟩ := Token.read?_eq_some_iff.mp hfound
    cases token with
    | opening kind content => exact hhash (List.cons.inj (List.cons.inj heq).2).1
    | closing kind => exact hslash (List.cons.inj (List.cons.inj heq).2).1
    | value path =>
        rcases hproper with ⟨first, more, rfl, hfirst, -⟩ | ⟨name, rfl, -⟩
        · rw [(List.cons.inj (List.cons.inj heq).2).1, hfirst] at hstart
          cases hstart
        · exact hat (List.cons.inj (List.cons.inj heq).2).1
  · intro h
    obtain ⟨rest, heq, hhead⟩ := exists_of_isDirective h
    rw [← (List.cons.inj heq).2] at hhead
    simp [hhash, hslash] at hhead

/-- Behind each opening brace of a passage stands a spacer. -/
def Passage.isSpaced : Passage → Bool
  | nil => true
  | plain c rest => (c != '{' || rest.lead.head?.any isSpacer) && rest.isSpaced
  | value _ rest => rest.isSpaced
  | block _ _ body rest => body.isSpaced && rest.isSpaced

/-- **Spaced braces are settled.** -/
theorem literal_settled_of_isSpaced {p : Passage} (h : p.isSpaced = true) :
    p.Literal Settled := by
  induction p with
  | nil => trivial
  | plain c rest ih =>
      simp only [isSpaced, Bool.and_eq_true, Bool.or_eq_true, bne_iff_ne] at h
      refine ⟨fun t => ?_, ih h.2⟩
      by_cases hc : c = '{'
      · have hspacer := h.1.resolve_left (not_not_intro hc)
        cases hlead : rest.lead with
        | nil =>
            rw [hlead] at hspacer
            cases hspacer
        | cons d more =>
            rw [hlead] at hspacer
            rw [hc]
            exact settled_of_isSpacer hspacer (more ++ t)
      · exact settled_of_ne hc _
  | value path rest ih => exact ih h
  | block kind content body rest ihbody ihrest =>
      simp only [isSpaced, Bool.and_eq_true] at h
      exact ⟨ihbody h.1, ihrest h.2⟩

/-- **The directives of an accepted template** are complete opening tags, but for those that have
one of the four letters and are not one of the two keywords. -/
theorem directive_of_isValid {text : List Char} (h : isValid text = true) {letter : Char}
    {rest : List Char} (hsuffix : '{' :: '#' :: letter :: rest <:+ text)
    (hletter : letter.isAlpha = true) :
    (∃ kind content after, IsContent content ∧
      '{' :: '#' :: letter :: rest = openingSource kind content ++ after) ∨
    (letter ∈ ['i', 'e', 'f', 'l'] ∧
      ∀ kind, startsOpening kind ('{' :: '#' :: letter :: rest) = false) := by
  have hgrammatical := grammatical_of_isValid h
  by_cases hkeyword : ∃ kind, startsOpening kind ('{' :: '#' :: letter :: rest) = true
  · left
    obtain ⟨kind, hstarts⟩ := hkeyword
    obtain ⟨more, heq, hword⟩ := startsOpening_iff.mp hstarts
    rw [heq] at hsuffix ⊢
    obtain ⟨content, after, hcontent, rfl⟩ := hgrammatical.openings kind more hsuffix hword
    exact ⟨kind, content, after, hcontent, by simp [openingSource]⟩
  · right
    refine ⟨hgrammatical.letters letter rest hsuffix hletter, fun kind => ?_⟩
    rw [Bool.eq_false_iff]
    exact fun hstarts => hkeyword ⟨kind, hstarts⟩

/-! ### Stand-ins -/

/-- What holds throughout a text holds throughout it when it is masked, once the stand-ins are braces
again. -/
theorem throughout_mask {q : List Char → Prop} {s : List Char} (hs : standIn ∉ s)
    (h : Throughout q s) : Throughout (fun t => q (unmask t)) (mask s) := by
  induction s with
  | nil => trivial
  | cons c s ih =>
      have hrest : standIn ∉ s := fun hmem => hs (List.mem_cons_of_mem c hmem)
      refine ⟨fun t => ?_, ih hrest h.2⟩
      have hunmask : unmask (mask (c :: s) ++ t) = c :: (s ++ unmask t) := by
        rw [unmask_append, unmask_mask hs, List.cons_append]
      have hq := h.1 (unmask t)
      rw [← hunmask] at hq
      exact hq

/-! ### What is written -/

/-- A value without braces shows no directive. -/
theorem not_isDirective_of_objectBraces {s : List Char} (h : Json.ObjectBraces s) :
    Throughout (fun t => ¬ IsDirective t) s := by
  refine h.imp fun t hbraces hdirective => ?_
  obtain ⟨rest, rfl, hhead⟩ := exists_of_isDirective hdirective
  rcases hbraces rest rfl with hquote | hclose
  · simp [hquote] at hhead
  · simp [hclose] at hhead

theorem mem_source_of_mem_lead {p : Passage} {c : Char} (h : c ∈ p.lead) : c ∈ p.source := by
  obtain ⟨more, hmore⟩ := p.exists_source_eq
  rw [hmore]
  exact List.mem_append_left more h

/-- **Nothing that is written from settled braces begins like a directive**, whatever is written
behind it, if the context has neither braces nor stand-ins. -/
theorem throughout_written {p : Passage} (hp : p.Formed)
    (hliteral : p.Literal fun s => ¬ IsDirective s) (hfree : standIn ∉ p.source) {context : Json}
    (hbraces : context.Lacks '{') (hcontext : context.Lacks standIn) :
    Throughout (fun s => ¬ IsDirective (unmask s)) (p.written context) := by
  induction p generalizing context with
  | nil => trivial
  | plain c rest ih =>
      rw [source, List.mem_cons, not_or] at hfree
      refine ⟨fun t => ?_, ih hp hliteral.2 hfree.2 hbraces hcontext⟩
      obtain ⟨more, hmore⟩ := exists_written_eq rest context
      have hstart : standIn ∉ c :: rest.lead := by
        rw [List.mem_cons, not_or]
        exact ⟨hfree.1, fun hmem => hfree.2 (mem_source_of_mem_lead hmem)⟩
      have hunmask : unmask (c :: (rest.written context ++ t)) =
          c :: (rest.lead ++ unmask (more ++ t)) := by
        rw [hmore, List.append_assoc, ← List.cons_append, unmask_append,
          unmask_of_not_mem hstart, List.cons_append]
      rw [hunmask]
      exact hliteral.1 (unmask (more ++ t))
  | value path rest ih =>
      rw [source, List.mem_append, not_or] at hfree
      have hvalue := not_mem_displayOption standIn_not_ascii hcontext path
      have hquiet := not_isDirective_of_objectBraces (objectBraces_displayOption hbraces path)
      exact throughout_append (throughout_mask hvalue hquiet)
        (ih hp.2 hliteral hfree.2 hbraces hcontext)
  | block kind content body rest ihbody ihrest =>
      obtain ⟨hcontent, hbody, hrest⟩ := hp
      simp only [source, List.mem_append, not_or] at hfree
      obtain ⟨hopening, hbodyFree, -, hrestFree⟩ := hfree
      have hquiet := ihrest hrest hliteral.2 hrestFree hbraces hcontext
      cases kind with
      | conditional =>
          refine throughout_append ?_ hquiet
          split
          · exact ihbody hbody hliteral.1 hbodyFree hbraces hcontext
          · trivial
      | loop =>
          refine throughout_append (throughout_flatMap fun scope hscope => ?_) hquiet
          -- The scope has a new name from the path of the loop, which has no braces either.
          have hstandIn : standIn ∉ content := fun hmem => hopening (by simp [openingSource, hmem])
          have hbrace : '{' ∉ content := not_mem_of_isContent hcontent (by decide)
          exact ihbody hbody hliteral.1 hbodyFree
            (lacks_of_mem_loopScopes (by decide) hbraces (not_mem_trim hbrace) hscope)
            (lacks_of_mem_loopScopes (by decide) hcontext (not_mem_trim hstandIn) hscope)

/-! ### Rendering -/

/-- **Accepted templates with settled braces leave no directive over.**  Every directive of an
accepted template is a complete opening tag, or has one of the four letters and is not one of the
two keywords.  If the other braces of the template are settled, then nowhere in the text that it is
rendered to is there anything that begins like a directive, for every context that has no braces. -/
theorem no_directive_left {template : String} (h : isValid template.toList = true) :
    (∀ letter rest, '{' :: '#' :: letter :: rest <:+ template.toList → letter.isAlpha = true →
      (∃ kind content after, IsContent content ∧
        '{' :: '#' :: letter :: rest = openingSource kind content ++ after) ∨
      (letter ∈ ['i', 'e', 'f', 'l'] ∧
        ∀ kind, startsOpening kind ('{' :: '#' :: letter :: rest) = false)) ∧
    ∃ p, Passage.parse? template.toList = some p ∧ p.source = template.toList ∧
      (standIn ∉ template.toList → p.Literal Settled → ∀ context : Json,
        context.Lacks '{' → context.Lacks standIn →
          ∀ s, s <:+ (render template context).toList → ¬ IsDirective s) := by
  refine ⟨fun letter rest => directive_of_isValid h, ?_⟩
  obtain ⟨p, hparse, hsource⟩ := exists_parse?_of_isValid h
  refine ⟨p, hparse, hsource, fun hfree hsettled context hbraces hcontext s hsuffix hdirective => ?_⟩
  have hformed : p.Formed := formed_of_parse? hparse
  have hfirm : p.Firm := ⟨hformed, hsettled.imp fun _ hs => hs.1⟩
  rw [← hsource] at hfree
  have hquiet := throughout_written hformed (hsettled.imp fun _ hs => hs.2) hfree hbraces hcontext
  rw [render, String.toList_ofList, renderText, ← hsource, renderScoped_written context hfirm,
    unmask, List.suffix_map_iff] at hsuffix
  obtain ⟨t, ht, rfl⟩ := hsuffix
  cases t with
  | nil =>
      obtain ⟨rest, heq, -⟩ := exists_of_isDirective hdirective
      cases heq
  | cons c rest => exact hquiet.of_suffix ht hdirective

/-- The code of a function that calls others, with braces around its body. -/
def calling : String :=
  "fn main() " ++ Text.braced ("\n" ++ Text.braced "#each calls" ++ Text.braced "name" ++ "(" ++
    Text.braced "argument" ++ ");\n" ++ Text.braced "/each")

/-- Two calls, the second of which has an object as its argument. -/
def calls : Json :=
  .object [("calls", .array [
    .object [("name", .string "open"), ("argument", .string "a file")],
    .object [("name", .string "close"), ("argument", .object [("now", .bool true)])]])]

/-- The code is rendered to a text with the braces of the function and of the object, and without
directives. -/
theorem render_calling :
    isValid calling.toList = true ∧ standIn ∉ calling.toList ∧ calls.Lacks '{' ∧
      calls.Lacks standIn ∧
      render calling calls =
        "fn main() " ++
          Text.braced ("\nopen(a file);\nclose(" ++ Text.braced "\"now\":true" ++ ");\n") ∧
      ∃ p, Passage.parse? calling.toList = some p ∧ p.Literal Settled ∧
        ∀ s, s <:+ (render calling calls).toList → ¬ IsDirective s := by
  have hvalid : isValid calling.toList = true := by decide +kernel
  have hfree : standIn ∉ calling.toList := by decide +kernel
  have hbraces : calls.Lacks '{' := by
    simp only [calls, Json.Lacks, Json.LacksFields, Json.LacksItems]
    decide +kernel
  have hcontext : calls.Lacks standIn := by
    simp only [calls, Json.Lacks, Json.LacksFields, Json.LacksItems]
    decide +kernel
  have hspaced : ∀ found ∈ Passage.parse? calling.toList, found.isSpaced = true := by
    decide +kernel
  obtain ⟨-, p, hparse, -, hleft⟩ := no_directive_left hvalid
  have hsettled : p.Literal Settled := literal_settled_of_isSpaced (hspaced p hparse)
  exact ⟨hvalid, hfree, hbraces, hcontext, by decide +kernel, p, hparse, hsettled,
    hleft hfree hsettled calls hbraces hcontext⟩

/-- A directive that is no keyword. -/
def unknownDirective : String := Text.braced "#foo"

/-- A brace in front of a variable, and the rest of a directive behind it. -/
def dividedDirective : String := String.singleton '{' ++ Text.braced "x" ++ "#a"

/-- **Not every template that leaves a directive over is rejected.**  An unknown directive is
accepted if it has one of the four letters, and is shown as it stands; a directive can come together
when the variable that divides it has no value; and one can be the name of a field of an object that
is shown. -/
theorem not_all_rejected :
    (isValid unknownDirective.toList = true ∧
      ¬ (∃ kind content after, IsContent content ∧
        unknownDirective.toList = openingSource kind content ++ after) ∧
      render unknownDirective (.object []) = unknownDirective) ∧
    (isValid dividedDirective.toList = true ∧
      render dividedDirective (.object []) = String.singleton '{' ++ "#a") ∧
    (isValid (Text.braced "x").toList = true ∧
      render (Text.braced "x")
          (.object [("x", .object [(String.singleton '{' ++ "#a", .bool true)])]) =
        Text.braced ("\"" ++ String.singleton '{' ++ "#a\":true")) := by
  have hnone : Token.read? unknownDirective.toList = none := by decide +kernel
  refine ⟨⟨by decide +kernel, ?_, by decide +kernel⟩, ⟨by decide +kernel, by decide +kernel⟩,
    by decide +kernel, by decide +kernel⟩
  rintro ⟨kind, content, after, hcontent, heq⟩
  have hread := Token.read?_eq_some_iff.mpr ⟨.opening kind content, after, hcontent, heq, rfl⟩
  rw [hnone] at hread
  cases hread

end Rulebook.Template
