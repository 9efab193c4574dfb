/-
**The block tree of a template.**

A template in which every brace belongs to a tag or a variable, and every tag to a block, is the
text of a tree: a passage is made of single characters, of places for values, and of blocks, whose
bodies are passages.  What such a tree means is said by one recursion over it, scope by scope; no
text is rewritten on the way.  This module defines the tree and its meaning, and the parser that
takes a template to its tree.

Main definitions:

* `Rulebook.Template.Passage` — passages, with `source` and `append`;
* `Rulebook.Template.Passage.meaning` — what a passage means in a scope;
* `Rulebook.Template.Passage.Proper` — the parts of the passage are what its text says;
* `Rulebook.Template.Passage.parse?` — the tree of a template, if it has one.

Main results:

* `Rulebook.Template.Token.read?_eq_some_iff` — a tag or a variable is read exactly from its text;
* `Rulebook.Template.Passage.source_of_parse?` — the tree of a template has the template as its
  text.
-/

import Rulebook.Proofs.Template.Reading
import Rulebook.Template.Condition

set_option autoImplicit false

namespace Rulebook.Template

/-! ### Passages -/

/-- A part of a template. -/
inductive Passage where
  /-- The end. -/
  | nil
  /-- A character, and what follows it. -/
  | plain (c : Char) (rest : Passage)
  /-- A place for the value at a path, and what follows it. -/
  | value (path : List Char) (rest : Passage)
  /-- A block with what stands in its opening tag, its body, and what follows it. -/
  | block (kind : BlockKind) (content : List Char) (body rest : Passage)
  deriving DecidableEq, Repr

namespace Passage

/-- The text of a passage. -/
def source : Passage → List Char
  | nil => []
  | plain c rest => c :: rest.source
  | value path rest => variableSource path ++ rest.source
  | block kind content body rest =>
    openingSource kind content ++ (body.source ++ (closingSource kind ++ rest.source))

/-- The parts of the passage are what its text says: no character is an opening brace, and paths
and the contents of tags have their form. -/
def Proper : Passage → Prop
  | nil => True
  | plain c rest => c ≠ '{' ∧ rest.Proper
  | value path rest => IsPath path ∧ rest.Proper
  | block _ content body rest => IsContent content ∧ body.Proper ∧ rest.Proper

/-- **What a passage means in a scope.**  Characters stand for themselves and a path for its value.
A conditional block means what its body does, if the condition holds, and nothing otherwise; a loop
means what its body does, for each item in turn, in the scope of the item. -/
def meaning : Passage → Json → List Char
  | nil, _ => []
  | plain c rest, context => c :: rest.meaning context
  | value path rest, context => displayOption (lookUp context path) ++ rest.meaning context
  | block .conditional content body rest, context =>
    (if holds context (Text.trim content) then body.meaning context else []) ++
      rest.meaning context
  | block .loop content body rest, context =>
    ((loopScopes context (Text.trim content)).flatMap fun scope => body.meaning scope) ++
      rest.meaning context

/-- One passage after another. -/
def append : Passage → Passage → Passage
  | nil, q => q
  | plain c rest, q => plain c (rest.append q)
  | value path rest, q => value path (rest.append q)
  | block kind content body rest, q => block kind content body (rest.append q)

@[simp] theorem source_append (p q : Passage) : (p.append q).source = p.source ++ q.source := by
  induction p with
  | nil => rfl
  | plain c rest ih => simp [append, source, ih]
  | value path rest ih => simp [append, source, ih]
  | block kind content body rest _ ih => simp [append, source, ih]

theorem proper_append {p q : Passage} (hp : p.Proper) (hq : q.Proper) : (p.append q).Proper := by
  induction p with
  | nil => exact hq
  | plain c rest ih => exact ⟨hp.1, ih hp.2⟩
  | value path rest ih => exact ⟨hp.1, ih hp.2⟩
  | block kind content body rest _ ih => exact ⟨hp.1, hp.2.1, ih hp.2.2⟩

@[simp] theorem meaning_append (p q : Passage) (context : Json) :
    (p.append q).meaning context = p.meaning context ++ q.meaning context := by
  induction p with
  | nil => rfl
  | plain c rest ih => simp [append, meaning, ih]
  | value path rest ih => simp [append, meaning, ih]
  | block kind content body rest _ ih => cases kind <;> simp [append, meaning, ih]

end Passage

/-! ### Tokens -/

/-- A tag or a variable. -/
inductive Token where
  /-- The beginning of a block, with what stands between the keyword and the closing brace. -/
  | opening (kind : BlockKind) (content : List Char)
  /-- The end of a block. -/
  | closing (kind : BlockKind)
  /-- A variable. -/
  | value (path : List Char)
  deriving DecidableEq, Repr

namespace Token

/-- The text of a token. -/
def source : Token → List Char
  | opening kind content => openingSource kind content
  | closing kind => closingSource kind
  | value path => variableSource path

/-- The parts of the token have their form. -/
def Proper : Token → Prop
  | opening _ content => IsContent content
  | closing _ => True
  | value path => IsPath path

/-- What stands between the keyword and the closing brace in the text of an opening tag. -/
def contentIn (kind : BlockKind) (tag : List Char) : List Char :=
  (tag.drop (kind.keyword.toList.length + 2)).dropLast

/-- The token at the beginning of a text, and its length. -/
def read? (s : List Char) : Option (Token × Nat) :=
  match Tag.read? s with
  | some (.opening kind _, length) =>
    some (opening kind (contentIn kind (s.take length)), length)
  | some (.closing kind, length) => some (closing kind, length)
  | none => (Variable.read? s).map fun found => (value found.1, found.2)

theorem contentIn_openingSource (kind : BlockKind) (content rest : List Char) :
    contentIn kind ((openingSource kind content ++ rest).take (openingSource kind content).length) =
      content := by
  rw [List.take_left]
  simp [contentIn, openingSource]

theorem source_ne_nil (token : Token) : token.source ≠ [] := by
  cases token <;> exact List.cons_ne_nil _ _

/-- A token has one opening brace, at its beginning. -/
theorem exists_tail (token : Token) (h : token.Proper) :
    ∃ tail, token.source = '{' :: tail ∧ '{' ∉ tail := by
  cases token with
  | opening kind content => exact ⟨_, rfl, brace_not_mem_openingTail kind h⟩
  | closing kind => exact ⟨_, rfl, brace_not_mem_closingTail kind⟩
  | value path => exact ⟨_, rfl, brace_not_mem_variableTail h⟩

/-- **A token is read exactly from its text.** -/
theorem read?_eq_some_iff {s : List Char} {found : Token × Nat} :
    read? s = some found ↔
      ∃ token rest, token.Proper ∧ s = token.source ++ rest ∧
        found = (token, token.source.length) := by
  constructor
  · intro h
    unfold read? at h
    split at h
    · rename_i kind argument length htag
      obtain ⟨kind', content, rest, hcontent, rfl, hfound⟩ | ⟨kind', rest, -, hfound⟩ :=
        Tag.read?_eq_some_iff.mp htag
      · cases hfound
        rw [contentIn_openingSource] at h
        exact ⟨opening kind content, rest, hcontent, rfl, (Option.some.inj h).symm⟩
      · cases hfound
    · rename_i kind length htag
      obtain ⟨kind', content, rest, -, -, hfound⟩ | ⟨kind', rest, rfl, hfound⟩ :=
        Tag.read?_eq_some_iff.mp htag
      · cases hfound
      · cases hfound
        exact ⟨closing kind, rest, trivial, rfl, (Option.some.inj h).symm⟩
    · obtain ⟨found', hfound, rfl⟩ := Option.map_eq_some_iff.mp h
      obtain ⟨path, rest, hpath, rfl, rfl⟩ := Variable.read?_eq_some_iff.mp hfound
      exact ⟨value path, rest, hpath, rfl, rfl⟩
  · rintro ⟨token, rest, hproper, rfl, rfl⟩
    cases token with
    | opening kind content =>
        rw [read?, source, Tag.read?_openingSource kind rest hproper]
        simp only [contentIn_openingSource]
    | closing kind => rw [read?, source, Tag.read?_closingSource kind rest]
    | value path =>
        rw [read?, source, Tag.read?_variableSource rest hproper]
        simp [Variable.read?_variableSource rest hproper]

/-- A text is gone through character by character, except that a token is passed over at once. -/
@[elab_as_elim]
theorem text_induction {motive : List Char → Prop} (nil : motive [])
    (plain : ∀ c rest, read? (c :: rest) = none → motive rest → motive (c :: rest))
    (token : ∀ (token : Token) rest, token.Proper → motive rest → motive (token.source ++ rest))
    (s : List Char) : motive s := by
  induction hn : s.length using Nat.strongRecOn generalizing s with
  | ind n ih =>
      cases s with
      | nil => exact nil
      | cons c rest =>
          cases hread : read? (c :: rest) with
          | none =>
              refine plain c rest hread (ih rest.length ?_ rest rfl)
              rw [← hn]
              exact Nat.lt_succ_self _
          | some found =>
              obtain ⟨t, more, hproper, hs, -⟩ := read?_eq_some_iff.mp hread
              have hlength : 0 < t.source.length := List.length_pos_iff.mpr t.source_ne_nil
              rw [hs] at hn ⊢
              rw [List.length_append] at hn
              exact token t more hproper (ih more.length (by omega) more rfl)

theorem pieces_source (token : Token) (rest : List Char) (h : token.Proper) :
    Text.pieces read? (token.source ++ rest) =
      .token token token.source :: Text.pieces read? rest :=
  Text.pieces_token token.source_ne_nil (read?_eq_some_iff.mpr ⟨token, rest, h, rfl, rfl⟩)

end Token

/-! ### The tree of a template -/

namespace Passage

/-- A block that is still open, with what stands before it at its level. -/
structure Frame where
  /-- What stands before the block. -/
  before : Passage
  /-- The kind of the block. -/
  kind : BlockKind
  /-- What stands in its opening tag. -/
  content : List Char

/-- The text from the beginning of the outermost open block to the beginning of the body of the
innermost one, which comes first in the list. -/
def framesSource : List Frame → List Char
  | [] => []
  | frame :: outer =>
    framesSource outer ++ (frame.before.source ++ openingSource frame.kind frame.content)

/-- The passage that a list of pieces completes, after the open blocks, innermost first, and the
passage that stands in the innermost one. -/
def assemble? : List Frame → Passage → List (Text.Piece Token) → Option Passage
  | [], p, [] => some p
  | _ :: _, _, [] => none
  | frames, p, .plain c :: rest => assemble? frames (p.append (.plain c .nil)) rest
  | frames, p, .token (.value path) _ :: rest =>
    assemble? frames (p.append (.value path .nil)) rest
  | frames, p, .token (.opening kind content) _ :: rest =>
    assemble? (⟨p, kind, content⟩ :: frames) .nil rest
  | [], _, .token (.closing _) _ :: _ => none
  | frame :: frames, p, .token (.closing kind) _ :: rest =>
    if kind = frame.kind then
      assemble? frames (frame.before.append (.block kind frame.content p .nil)) rest
    else none

/-- The tree of a template; none if a block is not closed, or a closing tag has no block. -/
def parse? (text : List Char) : Option Passage :=
  assemble? [] .nil (Text.pieces Token.read? text)

/-- The parser keeps the text: what it has read and what is to come make up the whole. -/
theorem source_of_assemble? {text : List Char} {frames : List Frame} {p q : Passage}
    (h : assemble? frames p (Text.pieces Token.read? text) = some q) :
    q.source = framesSource frames ++ (p.source ++ text) := by
  induction text using Token.text_induction generalizing frames p with
  | nil =>
      rw [Text.pieces] at h
      cases frames with
      | nil =>
          cases h
          simp [framesSource]
      | cons frame frames => cases h
  | plain c rest hread ih =>
      rw [Text.pieces_cons_of_none hread, assemble?] at h
      rw [ih h]
      simp [source]
  | token t rest hproper ih =>
      rw [Token.pieces_source t rest hproper] at h
      cases t with
      | opening kind content =>
          rw [assemble?] at h
          rw [ih h]
          simp [framesSource, source, Token.source]
      | closing kind =>
          cases frames with
          | nil => cases h
          | cons frame frames =>
              rw [assemble?] at h
              split at h
              · rename_i hkind
                subst hkind
                rw [ih h]
                simp [framesSource, source, Token.source]
              · cases h
      | value path =>
          rw [assemble?] at h
          rw [ih h]
          simp [source, Token.source]

/-- **The tree of a template has the template as its text.** -/
theorem source_of_parse? {text : List Char} {p : Passage} (h : parse? text = some p) :
    p.source = text := by
  rw [source_of_assemble? h]
  rfl

end Passage

end Rulebook.Template
