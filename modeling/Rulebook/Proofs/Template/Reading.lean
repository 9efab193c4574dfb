/-
**What the readers of a template read.**

A tag and a variable both begin with an opening brace and have no other one.  This module spells out
the texts that they are read from, and shows that the readers take these texts and no others,
whatever follows.  All that is proved later about templates goes through these lemmas, so the
readers themselves are opened nowhere else.

Main definitions:

* `Rulebook.Template.openingSource`, `Rulebook.Template.closingSource`,
  `Rulebook.Template.variableSource` — the texts of tags and variables;
* `Rulebook.Template.IsContent`, `Rulebook.Template.IsPath` — what may stand in them.

Main results:

* `Rulebook.Template.Tag.read?_eq_some_iff`, `Rulebook.Template.Variable.read?_eq_some_iff` — a tag
  or a variable is read exactly from its text.
-/

import Rulebook.Template.Tag
import Rulebook.Template.Variable

set_option autoImplicit false

namespace Rulebook

/-! ### Pieces -/

namespace Text

variable {α : Type} {read : List Char → Option (α × Nat)}

theorem pieces_cons_of_none {c : Char} {rest : List Char} (h : read (c :: rest) = none) :
    pieces read (c :: rest) = .plain c :: pieces read rest := by
  rw [pieces, h]

/-- A token that is read from a text which is not empty is the first piece. -/
theorem pieces_token {source rest : List Char} {value : α} (hne : source ≠ [])
    (h : read (source ++ rest) = some (value, source.length)) :
    pieces read (source ++ rest) = .token value source :: pieces read rest := by
  obtain ⟨c, more, rfl⟩ := List.exists_cons_of_ne_nil hne
  rw [List.cons_append] at h ⊢
  rw [pieces, h]
  simp

/-- The token that a piece is, if it is one. -/
def Piece.value? : Piece α → Option α
  | .plain _ => none
  | .token value _ => some value

/-- The tokens among pieces are the same wherever the pieces begin. -/
theorem fst_placed (start : Nat) (ps : List (Piece α)) :
    (placed start ps).map Prod.fst = ps.filterMap Piece.value? := by
  induction ps generalizing start with
  | nil => rfl
  | cons piece rest ih =>
      cases piece with
      | plain c => exact ih (start + 1)
      | token value source =>
          rw [placed, List.map_cons, ih, List.filterMap_cons, Piece.value?]

/-- Tokens begin with an opening brace. -/
def BeginsAtBrace (read : List Char → Option (α × Nat)) : Prop :=
  ∀ c rest, c ≠ '{' → read (c :: rest) = none

/-- Where there is no brace, there is no token. -/
theorem pieces_append_of_not_mem (hread : BeginsAtBrace read) {s : List Char} (t : List Char)
    (hs : '{' ∉ s) : pieces read (s ++ t) = s.map .plain ++ pieces read t := by
  induction s with
  | nil => rfl
  | cons c s ih =>
      rw [List.mem_cons, not_or] at hs
      rw [List.cons_append, pieces_cons_of_none (hread c _ (Ne.symm hs.1)), ih hs.2]
      rfl

/-! ### Places of tokens -/

/-- A token that is found in a text is read at one of its places. -/
theorem exists_read_of_mem_placed {text : List Char} {start : Nat} {value : α} {span : Span}
    (h : (value, span) ∈ placed start (pieces read text)) :
    ∃ s length, s <:+ text ∧ read s = some (value, length) := by
  fun_induction pieces read text generalizing start with
  | case1 => cases h
  | case2 c rest found length hread ih =>
      rw [placed] at h
      obtain heq | hmem := List.mem_cons.mp h
      · cases heq
        exact ⟨c :: rest, length, List.suffix_rfl, hread⟩
      · obtain ⟨s, n, hs, hn⟩ := ih hmem
        exact ⟨s, n, hs.trans ((List.drop_suffix _ rest).trans (List.suffix_cons c rest)), hn⟩
  | case3 c rest hread ih =>
      obtain ⟨s, n, hs, hn⟩ := ih h
      exact ⟨s, n, hs.trans (List.suffix_cons c rest), hn⟩

/-- The tokens of a text stand one behind the other, within the text, and none of them is empty. -/
theorem apart_placed (read : List Char → Option (α × Nat)) (text : List Char) (start : Nat) :
    (placed start (pieces read text)).Pairwise (fun a b => a.2.stop ≤ b.2.start) ∧
      ∀ found ∈ placed start (pieces read text), start ≤ found.2.start ∧
        found.2.start < found.2.stop ∧ found.2.stop ≤ start + text.length := by
  fun_induction pieces read text generalizing start with
  | case1 => simp [placed]
  | case2 c rest value length hread ih =>
      obtain ⟨hapart, hspans⟩ := ih (start + (c :: rest.take (length - 1)).length)
      simp only [List.length_cons, List.length_take, List.length_drop] at hapart hspans
      rw [placed, List.pairwise_cons, List.forall_mem_cons]
      simp only [List.length_cons, List.length_take]
      refine ⟨⟨fun found hfound => (hspans found hfound).1, hapart⟩, ⟨?_, ?_, ?_⟩, ?_⟩
      · exact Nat.le_refl start
      · omega
      · omega
      · intro found hfound
        have hspan := hspans found hfound
        omega
  | case3 c rest hread ih =>
      obtain ⟨hapart, hspans⟩ := ih (start + 1)
      refine ⟨hapart, fun found hfound => ?_⟩
      have hspan := hspans found hfound
      rw [List.length_cons]
      omega

/-- The tokens of a text come in the order of their places. -/
theorem pairwise_placed (read : List Char → Option (α × Nat)) (text : List Char)
    (start : Nat) :
    (placed start (pieces read text)).Pairwise (fun a b => a.2.start < b.2.start) ∧
      ∀ found ∈ placed start (pieces read text), start ≤ found.2.start := by
  obtain ⟨hapart, hspans⟩ := apart_placed read text start
  refine ⟨hapart.imp_of_mem fun {a b} ha _ hab => ?_, fun found hfound => (hspans found hfound).1⟩
  exact Nat.lt_of_lt_of_le (hspans a ha).2.1 hab

/-- What begins with a character that a part of a text does not have begins behind that part. -/
theorem suffix_of_suffix_append {c : Char} {rest s t : List Char} (h : c :: rest <:+ s ++ t)
    (hs : c ∉ s) : c :: rest <:+ t := by
  induction s with
  | nil => exact h
  | cons d s ih =>
      rw [List.mem_cons, not_or] at hs
      rcases List.suffix_cons_iff.mp h with heq | hsuffix
      · exact absurd (List.cons.inj heq).1 hs.1
      · exact ih hsuffix hs.2

/-- Tokens have one opening brace, at their beginning. -/
def OneBrace (read : List Char → Option (α × Nat)) : Prop :=
  ∀ c rest value length, read (c :: rest) = some (value, length) →
    c = '{' ∧ '{' ∉ rest.take (length - 1)

/-- If tokens have one brace each, none hides another: all that can be read is found. -/
theorem exists_mem_placed (hread : OneBrace read) {text : List Char} {c : Char}
    {rest : List Char} (hsuffix : c :: rest <:+ text) {value : α} {length : Nat}
    (hfound : read (c :: rest) = some (value, length)) (start : Nat) :
    ∃ span, (value, span) ∈ placed start (pieces read text) := by
  obtain ⟨rfl, -⟩ := hread c rest value length hfound
  fun_induction pieces read text generalizing start with
  | case1 => cases List.suffix_nil.mp hsuffix
  | case2 d more other n hother ih =>
      rcases List.suffix_cons_iff.mp hsuffix with heq | hmore
      · rw [← heq, hfound] at hother
        cases hother
        exact ⟨_, List.mem_cons_self⟩
      · rw [← List.take_append_drop (n - 1) more] at hmore
        have hbehind := suffix_of_suffix_append hmore (hread d more other n hother).2
        obtain ⟨span, hspan⟩ := ih (start + (d :: more.take (n - 1)).length) hbehind
        exact ⟨span, List.mem_cons_of_mem _ hspan⟩
  | case3 d more hnone ih =>
      rcases List.suffix_cons_iff.mp hsuffix with heq | hmore
      · rw [← heq, hfound] at hnone
        cases hnone
      · exact ih (start + 1) hmore

end Text

namespace Template

/-! ### The texts of tags -/

/-- What may stand between the keyword of an opening tag and its closing brace: a blank, and then
anything but braces. -/
def IsContent (content : List Char) : Prop :=
  (∀ c ∈ content, notBrace c = true) ∧ ∃ first rest, content = first :: rest ∧
    Text.isBlank first = true

/-- The text of an opening tag. -/
def openingSource (kind : BlockKind) (content : List Char) : List Char :=
  '{' :: '#' :: (kind.keyword.toList ++ (content ++ ['}']))

/-- The text of a closing tag. -/
def closingSource (kind : BlockKind) : List Char :=
  '{' :: '/' :: (kind.keyword.toList ++ ['}'])

/-- The text of a variable. -/
def variableSource (path : List Char) : List Char := '{' :: (path ++ ['}'])

theorem openingSource_ne_nil (kind : BlockKind) (content : List Char) :
    openingSource kind content ≠ [] := List.cons_ne_nil _ _

theorem closingSource_ne_nil (kind : BlockKind) : closingSource kind ≠ [] := List.cons_ne_nil _ _

theorem variableSource_ne_nil (path : List Char) : variableSource path ≠ [] := List.cons_ne_nil _ _

theorem keyword_toList (kind : BlockKind) :
    kind.keyword.toList = match kind with
      | .conditional => ['i', 'f']
      | .loop => ['e', 'a', 'c', 'h'] := by
  cases kind <;> rfl

theorem not_mem_of_isContent {content : List Char} (h : IsContent content) {c : Char}
    (hc : notBrace c = false) : c ∉ content := by
  intro hmem
  rw [h.1 c hmem] at hc
  cases hc

theorem readArgument?_eq_some_iff {s : List Char} {found : List Char × Nat} :
    readArgument? s = some found ↔
      ∃ content rest, IsContent content ∧ s = content ++ '}' :: rest ∧
        found = (Text.trim content, content.length + 1) := by
  constructor
  · intro h
    have hs : s = s.takeWhile notBrace ++ s.dropWhile notBrace :=
      (List.takeWhile_append_dropWhile).symm
    simp only [readArgument?] at h
    split at h
    · rename_i first more rest hcontent hrest
      split at h
      · rename_i hblank
        refine ⟨s.takeWhile notBrace, rest, ⟨List.all_eq_true.mp List.all_takeWhile, ?_⟩, ?_, ?_⟩
        · exact ⟨first, more, hcontent, hblank⟩
        · rwa [hrest] at hs
        · exact (Option.some.inj h).symm
      · cases h
    · cases h
  · rintro ⟨content, rest, ⟨hcontent, first, more, rfl, hblank⟩, rfl, rfl⟩
    have htake : (first :: more ++ '}' :: rest).takeWhile notBrace = first :: more := by
      rw [List.takeWhile_append_of_pos hcontent]
      simp [notBrace]
    have hdrop : (first :: more ++ '}' :: rest).dropWhile notBrace = '}' :: rest := by
      rw [List.dropWhile_append_of_pos hcontent]
      simp [notBrace]
    unfold readArgument?
    rw [htake, hdrop]
    simp [hblank]

/-- **A tag is read exactly from its text.** -/
theorem Tag.read?_eq_some_iff {s : List Char} {found : Tag × Nat} :
    Tag.read? s = some found ↔
      (∃ kind content rest, IsContent content ∧ s = openingSource kind content ++ rest ∧
        found = (.opening kind (Text.trim content), (openingSource kind content).length)) ∨
      (∃ kind rest, s = closingSource kind ++ rest ∧
        found = (.closing kind, (closingSource kind).length)) := by
  constructor
  · intro h
    unfold Tag.read? at h
    split at h
    · obtain ⟨argument, hread, rfl⟩ := Option.map_eq_some_iff.mp h
      obtain ⟨content, rest, hcontent, rfl, rfl⟩ := readArgument?_eq_some_iff.mp hread
      refine Or.inl ⟨.conditional, content, rest, hcontent, ?_, ?_⟩
      · simp [openingSource, keyword_toList]
      · simp [openingSource, keyword_toList]
        omega
    · obtain ⟨argument, hread, rfl⟩ := Option.map_eq_some_iff.mp h
      obtain ⟨content, rest, hcontent, rfl, rfl⟩ := readArgument?_eq_some_iff.mp hread
      refine Or.inl ⟨.loop, content, rest, hcontent, ?_, ?_⟩
      · simp [openingSource, keyword_toList]
      · simp [openingSource, keyword_toList]
        omega
    · rename_i rest
      cases h
      exact Or.inr ⟨.conditional, rest, rfl, rfl⟩
    · rename_i rest
      cases h
      exact Or.inr ⟨.loop, rest, rfl, rfl⟩
    · cases h
  · rintro (⟨kind, content, rest, hcontent, rfl, rfl⟩ | ⟨kind, rest, rfl, rfl⟩)
    · have hread : readArgument? (content ++ '}' :: rest) =
          some (Text.trim content, content.length + 1) :=
        readArgument?_eq_some_iff.mpr ⟨content, rest, hcontent, rfl, rfl⟩
      cases kind with
      | conditional =>
          simp [openingSource, keyword_toList, Tag.read?, hread]
          omega
      | loop =>
          simp [openingSource, keyword_toList, Tag.read?, hread]
          omega
    · cases kind <;> rfl

/-! ### The texts of variables -/

/-- A character that can begin a name, and any that can go on with a path. -/
def IsName (name : List Char) : Prop :=
  ∃ first rest, name = first :: rest ∧ isNameStart first = true ∧ ∀ c ∈ rest, isPathChar c = true

/-- What may stand between the braces of a variable: a name, perhaps after an `@`. -/
def IsPath (path : List Char) : Prop := IsName path ∨ ∃ name, path = '@' :: name ∧ IsName name

theorem IsName.ne_nil {name : List Char} (h : IsName name) : name ≠ [] := by
  obtain ⟨first, rest, rfl, -⟩ := h
  exact List.cons_ne_nil first rest

theorem IsPath.ne_nil {path : List Char} (h : IsPath path) : path ≠ [] := by
  obtain h | ⟨name, rfl, -⟩ := h
  · exact h.ne_nil
  · exact List.cons_ne_nil '@' name

theorem readPath_of_isName {name : List Char} (rest : List Char) (h : IsName name) :
    readPath (name ++ '}' :: rest) = name := by
  obtain ⟨first, more, rfl, hfirst, hmore⟩ := h
  rw [List.cons_append, readPath, if_pos hfirst, List.takeWhile_append_of_pos hmore]
  simp [isPathChar]

theorem isName_readPath {s : List Char} (h : readPath s ≠ []) :
    IsName (readPath s) ∧ readPath s <+: s := by
  cases s with
  | nil => exact absurd rfl h
  | cons c rest =>
      rw [readPath] at h ⊢
      split at h
      · rename_i hstart
        rw [if_pos hstart]
        refine ⟨⟨c, rest.takeWhile isPathChar, rfl, hstart, fun d hd => ?_⟩, ?_⟩
        · exact List.all_eq_true.mp List.all_takeWhile d hd
        · exact (List.prefix_cons_inj c).mpr (List.takeWhile_prefix isPathChar)
      · exact absurd rfl h

theorem readMarkedPath_of_isPath {path : List Char} (rest : List Char) (h : IsPath path) :
    readMarkedPath (path ++ '}' :: rest) = path := by
  obtain h | ⟨name, rfl, h⟩ := h
  · have hread := readPath_of_isName rest h
    obtain ⟨first, more, rfl, hfirst, -⟩ := h
    have hat : first ≠ '@' := by
      rintro rfl
      exact absurd hfirst (by decide)
    rw [List.cons_append] at hread ⊢
    rw [readMarkedPath.eq_def]
    split
    · rename_i heq
      exact absurd (List.cons.inj heq).1 hat
    · exact hread
  · have hread := readPath_of_isName rest h
    obtain ⟨first, more, hname⟩ := List.exists_cons_of_ne_nil h.ne_nil
    rw [List.cons_append, readMarkedPath, hread, hname]

theorem isPath_readMarkedPath {s : List Char} (h : readMarkedPath s ≠ []) :
    IsPath (readMarkedPath s) ∧ readMarkedPath s <+: s := by
  rw [readMarkedPath.eq_def] at h ⊢
  split at h
  · rename_i rest
    split at h
    · exact absurd rfl h
    · rename_i hne
      obtain ⟨hname, hpre⟩ := isName_readPath hne
      exact ⟨Or.inr ⟨readPath rest, rfl, hname⟩, (List.prefix_cons_inj '@').mpr hpre⟩
  · obtain ⟨hname, hpre⟩ := isName_readPath h
    exact ⟨Or.inl hname, hpre⟩

/-- **A variable is read exactly from its text.** -/
theorem Variable.read?_eq_some_iff {s : List Char} {found : List Char × Nat} :
    Variable.read? s = some found ↔
      ∃ path rest, IsPath path ∧ s = variableSource path ++ rest ∧
        found = (path, (variableSource path).length) := by
  constructor
  · intro h
    rw [Variable.read?.eq_def] at h
    split at h
    · rename_i rest
      split at h
      · cases h
      · rename_i hne
        split at h
        · rename_i after hafter
          obtain ⟨hpath, tail, htail⟩ := isPath_readMarkedPath hne
          generalize readMarkedPath rest = path at h hafter hpath htail
          refine ⟨path, after, hpath, ?_, ?_⟩
          · have hdrop : rest.drop path.length = tail := by rw [← htail, List.drop_left]
            rw [← htail, ← hdrop, hafter]
            simp [variableSource]
          · rw [← Option.some.inj h]
            simp [variableSource]
        · cases h
    · cases h
  · rintro ⟨path, rest, hpath, rfl, rfl⟩
    have hread := readMarkedPath_of_isPath rest hpath
    obtain ⟨first, more, hcons⟩ := List.exists_cons_of_ne_nil hpath.ne_nil
    have hsource : variableSource path ++ rest = '{' :: (path ++ '}' :: rest) := by
      simp [variableSource]
    rw [hsource, Variable.read?, hread, hcons]
    simp [variableSource]

/-! ### Braces -/

theorem beginsAtBrace_tag : Text.BeginsAtBrace Tag.read? := by
  intro c rest hc
  refine Option.eq_none_iff_forall_ne_some.mpr fun found hfound => ?_
  obtain ⟨kind, content, more, -, hs, -⟩ | ⟨kind, more, hs, -⟩ := Tag.read?_eq_some_iff.mp hfound
  · exact hc (List.cons.inj hs).1
  · exact hc (List.cons.inj hs).1

theorem beginsAtBrace_variable : Text.BeginsAtBrace Variable.read? := by
  intro c rest hc
  refine Option.eq_none_iff_forall_ne_some.mpr fun found hfound => ?_
  obtain ⟨path, more, -, hs, -⟩ := Variable.read?_eq_some_iff.mp hfound
  exact hc (List.cons.inj hs).1

theorem brace_not_mem_openingTail {content : List Char} (kind : BlockKind)
    (h : IsContent content) : '{' ∉ '#' :: (kind.keyword.toList ++ (content ++ ['}'])) := by
  have hcontent : '{' ∉ content := not_mem_of_isContent h (by decide)
  cases kind <;> simp [keyword_toList, hcontent]

theorem brace_not_mem_closingTail (kind : BlockKind) :
    '{' ∉ '/' :: (kind.keyword.toList ++ ['}']) := by
  cases kind <;> simp [keyword_toList]

theorem IsName.not_mem {name : List Char} (h : IsName name) {c : Char} (hc : isPathChar c = false) :
    c ∉ name := by
  obtain ⟨first, rest, rfl, hfirst, hrest⟩ := h
  have hstart : isPathChar first = true := by
    rw [isNameStart, Bool.or_eq_true] at hfirst
    obtain hfirst | hfirst := hfirst <;> simp [isPathChar, Char.isAlphanum, hfirst]
  rw [List.mem_cons, not_or]
  constructor
  · rintro rfl
    rw [hstart] at hc
    cases hc
  · intro hmem
    rw [hrest c hmem] at hc
    cases hc

theorem IsPath.not_mem {path : List Char} (h : IsPath path) {c : Char}
    (hc : isPathChar c = false) (hat : c ≠ '@') : c ∉ path := by
  obtain h | ⟨name, rfl, h⟩ := h
  · exact h.not_mem hc
  · rw [List.mem_cons, not_or]
    exact ⟨hat, h.not_mem hc⟩

theorem IsPath.head_ne {first : Char} {more : List Char} (h : IsPath (first :: more)) {c : Char}
    (hc : isPathChar c = false) (hat : c ≠ '@') : first ≠ c := by
  rintro rfl
  exact h.not_mem hc hat List.mem_cons_self

theorem brace_not_mem_variableTail {path : List Char} (h : IsPath path) :
    '{' ∉ path ++ ['}'] := by
  have hpath : '{' ∉ path := h.not_mem (by decide) (by decide)
  simp [hpath]

/-! ### Tags and variables side by side -/

/-- A tag is no variable: its second character cannot begin a path. -/
theorem Variable.read?_eq_none_of_tag {s : List Char} {found : Tag × Nat}
    (h : Tag.read? s = some found) : Variable.read? s = none := by
  refine Option.eq_none_iff_forall_ne_some.mpr fun other hother => ?_
  obtain ⟨path, rest, hpath, rfl, -⟩ := Variable.read?_eq_some_iff.mp hother
  obtain ⟨first, more, rfl⟩ := List.exists_cons_of_ne_nil hpath.ne_nil
  obtain ⟨kind, content, tail, -, hs, -⟩ | ⟨kind, tail, hs, -⟩ := Tag.read?_eq_some_iff.mp h
  · exact hpath.head_ne (by decide) (by decide) (List.cons.inj (List.cons.inj hs).2).1
  · exact hpath.head_ne (by decide) (by decide) (List.cons.inj (List.cons.inj hs).2).1

theorem Tag.read?_openingSource (kind : BlockKind) {content : List Char} (rest : List Char)
    (h : IsContent content) :
    Tag.read? (openingSource kind content ++ rest) =
      some (.opening kind (Text.trim content), (openingSource kind content).length) :=
  Tag.read?_eq_some_iff.mpr (Or.inl ⟨kind, content, rest, h, rfl, rfl⟩)

theorem Tag.read?_closingSource (kind : BlockKind) (rest : List Char) :
    Tag.read? (closingSource kind ++ rest) =
      some (.closing kind, (closingSource kind).length) :=
  Tag.read?_eq_some_iff.mpr (Or.inr ⟨kind, rest, rfl, rfl⟩)

theorem Variable.read?_variableSource {path : List Char} (rest : List Char) (h : IsPath path) :
    Variable.read? (variableSource path ++ rest) = some (path, (variableSource path).length) :=
  Variable.read?_eq_some_iff.mpr ⟨path, rest, h, rfl, rfl⟩

theorem Tag.read?_variableSource {path : List Char} (rest : List Char) (h : IsPath path) :
    Tag.read? (variableSource path ++ rest) = none := by
  refine Option.eq_none_iff_forall_ne_some.mpr fun found hfound => ?_
  have hnone := Variable.read?_eq_none_of_tag hfound
  rw [Variable.read?_variableSource rest h] at hnone
  cases hnone

/-- A variable holds no tag, nor does a tag begin in it. -/
theorem pieces_tag_variableSource {path : List Char} (rest : List Char) (h : IsPath path) :
    Text.pieces Tag.read? (variableSource path ++ rest) =
      (variableSource path).map .plain ++ Text.pieces Tag.read? rest := by
  have hread : Tag.read? ('{' :: (path ++ ['}'] ++ rest)) = none :=
    Tag.read?_variableSource rest h
  rw [variableSource, List.cons_append, Text.pieces_cons_of_none hread,
    Text.pieces_append_of_not_mem beginsAtBrace_tag rest (brace_not_mem_variableTail h)]
  rfl

end Template

end Rulebook
