/-
**Counting tags.**

The check of templates does not go through the tags to count them: it looks at every place of the
text for an opening keyword, and for a closing tag.  A closing tag is found at each of these places
that begins with its text.  An opening keyword is found at the opening tags of its kind, and besides
wherever it stands without a blank, an argument and a closing brace after it.  Tokens have one
opening brace each, so a place is either the beginning of a token or lies in plain text.

Main definitions:

* `Rulebook.Template.tagsIn` — the tags of a text, without their places;
* `Rulebook.Template.incompleteCount` — the number of opening keywords that begin no tag.

Main results:

* `Rulebook.Template.tag_marks` — reading tags alone finds the tags among the tokens;
* `Rulebook.Template.openingCount_eq`, `Rulebook.Template.closingCount_eq` — what the two counts of
  a kind of block are in terms of its tags.
-/

import Mathlib.Data.List.Infix
import Rulebook.Proofs.Template.Passage
import Rulebook.Template.Validation

set_option autoImplicit false

namespace Rulebook

/-- No place is counted exactly if none satisfies the predicate. -/
theorem Text.countSuffixes_eq_zero_iff {p : List Char → Bool} {text : List Char} :
    Text.countSuffixes p text = 0 ↔ ∀ c rest, c :: rest <:+ text → p (c :: rest) = false := by
  induction text with
  | nil =>
      refine ⟨fun _ c rest h => ?_, fun _ => rfl⟩
      cases List.suffix_nil.mp h
  | cons d text ih =>
      rw [Text.countSuffixes, Nat.add_eq_zero_iff, ih]
      constructor
      · rintro ⟨hhere, hrest⟩ c rest hsuffix
        obtain heq | hsuffix := List.suffix_cons_iff.mp hsuffix
        · rw [heq]
          simpa using hhere
        · exact hrest c rest hsuffix
      · intro h
        have hhere : p (d :: text) = false := h d text List.suffix_rfl
        refine ⟨by simp [hhere], fun c rest hsuffix => ?_⟩
        exact h c rest (hsuffix.trans (List.suffix_cons d text))

namespace Template

/-! ### The tags of a template -/

/-- The tag that a token is. -/
def Token.tag? : Token → Option Tag
  | .opening kind content => some (.opening kind (Text.trim content))
  | .closing kind => some (.closing kind)
  | .value _ => none

/-- The tags among the tokens of a text. -/
def tagsIn (text : List Char) : List Tag :=
  ((Text.pieces Token.read? text).filterMap Text.Piece.value?).filterMap Token.tag?

theorem tagsIn_plain {c : Char} {rest : List Char} (h : Token.read? (c :: rest) = none) :
    tagsIn (c :: rest) = tagsIn rest := by
  rw [tagsIn, Text.pieces_cons_of_none h]
  rfl

theorem tagsIn_token {token : Token} (rest : List Char) (h : token.Proper) :
    tagsIn (token.source ++ rest) = token.tag?.toList ++ tagsIn rest := by
  rw [tagsIn, Token.pieces_source token rest h]
  cases token <;> rfl

/-- Reading tags alone finds the same tags as reading tags and variables. -/
theorem tag_marks (text : List Char) : (marks text).map Mark.tag = tagsIn text := by
  have hmarks (s : List Char) :
      (marks s).map Mark.tag = (Text.pieces Tag.read? s).filterMap Text.Piece.value? := by
    rw [← Text.fst_placed 0]
    simp [marks, Text.placedTokens, Function.comp_def]
  rw [hmarks]
  induction text using Token.text_induction with
  | nil => simp [Text.pieces, tagsIn]
  | plain c rest hread ih =>
      have htag : Tag.read? (c :: rest) = none := by
        unfold Token.read? at hread
        split at hread
        · cases hread
        · cases hread
        · assumption
      rw [tagsIn_plain hread, ← ih, Text.pieces_cons_of_none htag]
      rfl
  | token t rest hproper ih =>
      rw [tagsIn_token rest hproper, ← ih]
      cases t with
      | opening kind content =>
          rw [Token.source, Text.pieces_token (openingSource_ne_nil kind content)
            (Tag.read?_openingSource kind rest hproper)]
          rfl
      | closing kind =>
          rw [Token.source, Text.pieces_token (closingSource_ne_nil kind)
            (Tag.read?_closingSource kind rest)]
          rfl
      | value path =>
          have hplain : (List.map Text.Piece.plain (variableSource path)).filterMap
              (Text.Piece.value? : Text.Piece Tag → Option Tag) = [] := by
            simp [List.filterMap_map, Text.Piece.value?]
          rw [Token.source, pieces_tag_variableSource rest hproper, List.filterMap_append, hplain]
          rfl

/-! ### Counts -/

/-- A predicate on texts that looks for an opening brace. -/
def AtBrace (p : List Char → Bool) : Prop := ∀ c rest, c ≠ '{' → p (c :: rest) = false

theorem countSuffixes_append {p : List Char → Bool} (hp : AtBrace p) {s : List Char}
    (t : List Char) (hs : '{' ∉ s) :
    Text.countSuffixes p (s ++ t) = Text.countSuffixes p t := by
  induction s with
  | nil => rfl
  | cons c s ih =>
      rw [List.mem_cons, not_or] at hs
      rw [List.cons_append, Text.countSuffixes, hp c _ (Ne.symm hs.1), ih hs.2]
      simp

/-- Whether a text satisfies `p` and begins with no token. -/
def offTokens (p : List Char → Bool) (s : List Char) : Bool := p s && (Token.read? s).isNone

theorem AtBrace.offTokens {p : List Char → Bool} (hp : AtBrace p) : AtBrace (offTokens p) := by
  intro c rest hc
  rw [Template.offTokens, hp c rest hc, Bool.false_and]

/-- A place that is counted is a token, or one where no token is read. -/
theorem countSuffixes_eq_add {p : List Char → Bool} (hp : AtBrace p) {q : Tag → Bool}
    (htoken : ∀ (token : Token) (rest : List Char), token.Proper →
      p (token.source ++ rest) = token.tag?.any q) (text : List Char) :
    Text.countSuffixes p text =
      (tagsIn text).countP q + Text.countSuffixes (offTokens p) text := by
  induction text using Token.text_induction with
  | nil => simp [Text.countSuffixes, tagsIn, Text.pieces]
  | plain c rest hread ih =>
      have hoff : offTokens p (c :: rest) = p (c :: rest) := by
        rw [offTokens, hread, Option.isNone_none, Bool.and_true]
      rw [Text.countSuffixes, Text.countSuffixes, ih, tagsIn_plain hread, hoff]
      omega
  | token t rest hproper ih =>
      -- The only brace of a token is its first character, so nothing is counted further inside.
      obtain ⟨tail, htail, hbrace⟩ := t.exists_tail hproper
      have hread : Token.read? (t.source ++ rest) = some (t, t.source.length) :=
        Token.read?_eq_some_iff.mpr ⟨t, rest, hproper, rfl, rfl⟩
      have hcount : Text.countSuffixes p (t.source ++ rest) =
          (if t.tag?.any q then 1 else 0) + Text.countSuffixes p rest := by
        rw [← htoken t rest hproper, htail, List.cons_append, Text.countSuffixes,
          countSuffixes_append hp rest hbrace]
      have hoff : offTokens p (t.source ++ rest) = false := by
        rw [offTokens, hread, Option.isNone_some, Bool.and_false]
      have hplain : Text.countSuffixes (offTokens p) (t.source ++ rest) =
          Text.countSuffixes (offTokens p) rest := by
        rw [htail, List.cons_append] at hoff ⊢
        rw [Text.countSuffixes, hoff, countSuffixes_append hp.offTokens rest hbrace]
        simp
      have htags : (tagsIn (t.source ++ rest)).countP q =
          (if t.tag?.any q then 1 else 0) + (tagsIn rest).countP q := by
        rw [tagsIn_token rest hproper, List.countP_append]
        cases t.tag? with
        | none => simp
        | some tag => simp [List.countP_singleton]
      rw [hcount, hplain, htags, ih]
      omega

/-- The blank characters, by their numbers. -/
def blankNumbers : List Nat :=
  [9, 10, 11, 12, 13, 0x20, 0x85, 0xA0, 0x1680, 0x2000, 0x2001, 0x2002, 0x2003, 0x2004, 0x2005,
    0x2006, 0x2007, 0x2008, 0x2009, 0x200A, 0x2028, 0x2029, 0x202F, 0x205F, 0x3000]

theorem toNat_mem_blankNumbers {c : Char} (h : Text.isBlank c = true) :
    c.toNat ∈ blankNumbers := by
  simp only [Text.isBlank, Bool.or_eq_true, Bool.and_eq_true, decide_eq_true_eq, beq_iff_eq] at h
  simp only [blankNumbers, List.mem_cons, List.not_mem_nil, or_false]
  omega

/-- A blank ends a word. -/
theorem isWord_of_isBlank {c : Char} (h : Text.isBlank c = true) : Text.isWord c = false := by
  have hall : ∀ n ∈ blankNumbers, Text.isWord (Char.ofNat n) = false := by
    decide +kernel
  have hc := hall c.toNat (toNat_mem_blankNumbers h)
  rwa [Char.ofNat_toNat] at hc

/-- A blank ends a path. -/
theorem isPathChar_of_isBlank {c : Char} (h : Text.isBlank c = true) : isPathChar c = false := by
  have hall : ∀ n ∈ blankNumbers, isPathChar (Char.ofNat n) = false := by
    decide +kernel
  have hc := hall c.toNat (toNat_mem_blankNumbers h)
  rwa [Char.ofNat_toNat] at hc

/-- There are no blanks in the path of a variable. -/
theorem IsPath.isBlank_eq_false {path : List Char} (h : IsPath path) {c : Char} (hc : c ∈ path) :
    Text.isBlank c = false := by
  rw [Bool.eq_false_iff]
  intro hblank
  have hat : c ≠ '@' := by
    rintro rfl
    exact absurd hblank (by decide)
  exact h.not_mem (isPathChar_of_isBlank hblank) hat hc

theorem startsOpening_source (kind : BlockKind) (token : Token) (rest : List Char)
    (h : token.Proper) :
    startsOpening kind (token.source ++ rest) =
      token.tag?.any fun tag => tag.isOpening && tag.kind == kind := by
  cases token with
  | opening kind' content =>
      obtain ⟨-, blank, more, rfl, hblank⟩ := h
      have hword := isWord_of_isBlank hblank
      cases kind <;> cases kind' <;>
        simp [startsOpening, Token.source, openingSource, keyword_toList, List.isPrefixOf?,
          Token.tag?, Tag.isOpening, Tag.kind, hword]
  | closing kind' =>
      cases kind <;> cases kind' <;> rfl
  | value path =>
      obtain ⟨first, more, rfl⟩ := List.exists_cons_of_ne_nil h.ne_nil
      have hfirst : first ≠ '#' := IsPath.head_ne h (by decide) (by decide)
      cases kind <;>
        simp [startsOpening, Token.source, variableSource, List.isPrefixOf?, Token.tag?,
          Ne.symm hfirst]

theorem label_toList (kind : BlockKind) :
    (Tag.closing kind).label.toList = closingSource kind := by
  cases kind <;> decide

theorem isPrefixOf_source (kind : BlockKind) (token : Token) (rest : List Char)
    (h : token.Proper) :
    (closingSource kind).isPrefixOf (token.source ++ rest) =
      token.tag?.any fun tag => !tag.isOpening && tag.kind == kind := by
  cases token with
  | opening kind' content => cases kind <;> cases kind' <;> rfl
  | closing kind' =>
      cases kind <;> cases kind' <;>
        simp [Token.source, closingSource, keyword_toList, List.isPrefixOf, Token.tag?,
          Tag.isOpening, Tag.kind]
  | value path =>
      obtain ⟨first, more, rfl⟩ := List.exists_cons_of_ne_nil h.ne_nil
      have hfirst : first ≠ '/' := IsPath.head_ne h (by decide) (by decide)
      simp [Token.source, closingSource, variableSource, List.isPrefixOf, Token.tag?,
        Ne.symm hfirst]

/-- The number of opening keywords of a kind that do not begin a tag. -/
def incompleteCount (kind : BlockKind) (text : List Char) : Nat :=
  Text.countSuffixes (offTokens (startsOpening kind)) text

/-- **The opening keywords are those of opening tags, and those that begin no tag.** -/
theorem openingCount_eq (kind : BlockKind) (text : List Char) :
    openingCount kind text =
      (tagsIn text).countP (fun tag => tag.isOpening && tag.kind == kind) +
        incompleteCount kind text := by
  refine countSuffixes_eq_add (fun c rest hc => ?_) (startsOpening_source kind) text
  have hbrace : ('{' == c) = false := by simpa using Ne.symm hc
  simp [startsOpening, List.isPrefixOf?, hbrace]

/-- **Every place with the text of a closing tag is a closing tag.** -/
theorem closingCount_eq (kind : BlockKind) (text : List Char) :
    closingCount kind text =
      (tagsIn text).countP fun tag => !tag.isOpening && tag.kind == kind := by
  have hbrace : AtBrace (closingSource kind).isPrefixOf := by
    intro c rest hc
    have hne : ('{' == c) = false := by simpa using Ne.symm hc
    simp [closingSource, List.isPrefixOf, hne]
  -- The text of a closing tag is read as one wherever it stands.
  have hplain : Text.countSuffixes (offTokens (closingSource kind).isPrefixOf) text = 0 := by
    refine Text.countSuffixes_eq_zero_iff.mpr fun c rest _ => Bool.eq_false_iff.mpr fun h => ?_
    obtain ⟨hclosing, hnone⟩ := (Bool.and_eq_true _ _).mp h
    obtain ⟨more, hmore⟩ := List.isPrefixOf_iff_prefix.mp hclosing
    have hread : Token.read? (c :: rest) = some (.closing kind, (closingSource kind).length) :=
      Token.read?_eq_some_iff.mpr ⟨.closing kind, more, trivial, hmore.symm, rfl⟩
    rw [hread] at hnone
    cases hnone
  rw [closingCount, label_toList, Text.countOf,
    countSuffixes_eq_add hbrace (isPrefixOf_source kind) text, hplain, Nat.add_zero]

/-- The tags of one sort are those of the two kinds of block. -/
theorem countP_kinds (sort : Tag → Bool) (tags : List Tag) :
    tags.countP sort = (tags.countP fun tag => sort tag && tag.kind == .conditional) +
      tags.countP fun tag => sort tag && tag.kind == .loop := by
  induction tags with
  | nil => rfl
  | cons tag tags ih =>
      rw [List.countP_cons, List.countP_cons, List.countP_cons, ih]
      cases sort tag <;> cases tag.kind <;> simp <;> omega

end Template

end Rulebook
