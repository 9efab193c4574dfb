/-
**What the check of templates accepts.**

The check looks for three things that have little to do with each other: directives with a letter
that begins no keyword; kinds of block with more opening keywords than closing tags, or fewer; and,
only where these numbers agree, closing tags that do not belong to the tag on top of a stack.  It
does not look at what is left on the stack, and it counts opening keywords that no tag is read from.
Together the three say that the template is of a grammar: its directives begin like keywords, its
opening keywords are completed to opening tags, and its tags are balanced.

The argument is one of counting.  If the stack finds no fault then no more tags are closed than are
opened.  As many are closed as there are opening keywords, so no keyword is left that is not part of
a tag, and no tag that is not closed.

Main definitions:

* `Rulebook.Template.Grammatical` — the grammar of templates.

Main results:

* `Rulebook.Template.malformedDirectives_eq_nil_iff`,
  `Rulebook.Template.incompleteCount_eq_zero_iff` — the two conditions on single directives;
* `Rulebook.Template.no_faults_of_nests`, `Rulebook.Template.countP_le_of_no_faults` — the stack
  finds no fault in balanced tags, and where it finds none no more tags are closed than opened;
* `Rulebook.Template.isValid_iff_grammatical` — **the check accepts exactly the grammar, and in a
  template that it accepts every tag is in exactly one block**.
-/

import Rulebook.Proofs.Template.Balance
import Rulebook.Proofs.Template.Counting

set_option autoImplicit false

namespace Rulebook.Template

/-! ### The grammar -/

/-- A keyword ends where a text begins: the text is empty, or begins with no word character. -/
def EndsWord (rest : List Char) : Prop :=
  ∀ next more, rest = next :: more → Text.isWord next = false

/-- **The grammar of templates.** -/
structure Grammatical (text : List Char) : Prop where
  /-- The first letter of a directive begins a keyword. -/
  letters : ∀ letter rest, '{' :: '#' :: letter :: rest <:+ text → letter.isAlpha = true →
    letter ∈ ['i', 'e', 'f', 'l']
  /-- An opening keyword, as a whole word, is followed by a blank, an argument without braces, and a
  closing brace. -/
  openings : ∀ (kind : BlockKind) (rest : List Char),
    '{' :: '#' :: (kind.keyword.toList ++ rest) <:+ text → EndsWord rest →
      ∃ content after, IsContent content ∧ rest = content ++ '}' :: after
  /-- The tags are balanced. -/
  balanced : Balanced ((marks text).map Mark.tag)

/-! ### Single directives -/

/-- A directive begins at its brace and has no other opening one. -/
theorem exists_tail_of_readDirective? {s : List Char} {letter : Char} {length : Nat}
    (h : readDirective? s = some (letter, length)) :
    letter.isAlpha = true ∧ ∃ tail after, s = '{' :: '#' :: letter :: (tail ++ after) ∧
      length = tail.length + 3 ∧ '{' ∉ tail := by
  unfold readDirective? at h
  split at h
  · rename_i first rest
    have hcontent : '{' ∉ rest.takeWhile notBrace :=
      fun hmem => absurd (List.all_eq_true.mp List.all_takeWhile _ hmem) (by decide)
    have hrest : rest.takeWhile notBrace ++ rest.dropWhile notBrace = rest :=
      List.takeWhile_append_dropWhile
    split at h
    · rename_i halpha
      dsimp only at h
      split at h
      · rename_i after hafter
        cases h
        rw [hafter] at hrest
        exact ⟨halpha, rest.takeWhile notBrace ++ ['}'], after, by simp [hrest], by simp,
          by simp [hcontent]⟩
      · cases h
        exact ⟨halpha, rest.takeWhile notBrace, rest.dropWhile notBrace, by rw [hrest], rfl,
          hcontent⟩
    · cases h
  · cases h

/-- A directive is read wherever a letter stands behind the two characters. -/
theorem readDirective?_of_isAlpha {letter : Char} (rest : List Char) (h : letter.isAlpha = true) :
    ∃ length, readDirective? ('{' :: '#' :: letter :: rest) = some (letter, length) := by
  rw [readDirective?, if_pos h]
  dsimp only
  split
  · exact ⟨_, rfl⟩
  · exact ⟨_, rfl⟩

theorem oneBrace_directive : Text.OneBrace readDirective? := by
  intro c rest letter length h
  obtain ⟨halpha, tail, after, heq, rfl, htail⟩ := exists_tail_of_readDirective? h
  obtain ⟨rfl, rfl⟩ := List.cons.inj heq
  have htake : ('#' :: letter :: (tail ++ after)).take (tail.length + 3 - 1) =
      '#' :: letter :: tail := by simp
  have hletter : '{' ≠ letter := by
    rintro rfl
    exact absurd halpha (by decide)
  refine ⟨rfl, ?_⟩
  rw [htake]
  simp [hletter, htail]

/-- **No directive is malformed exactly if the letters of all begin keywords.** -/
theorem malformedDirectives_eq_nil_iff {text : List Char} :
    malformedDirectives text = [] ↔
      ∀ letter rest, '{' :: '#' :: letter :: rest <:+ text → letter.isAlpha = true →
        letter ∈ directiveLetters := by
  rw [malformedDirectives, List.map_eq_nil_iff, List.filter_eq_nil_iff]
  constructor
  · intro h letter rest hsuffix halpha
    obtain ⟨length, hread⟩ := readDirective?_of_isAlpha rest halpha
    obtain ⟨span, hmem⟩ := Text.exists_mem_placed oneBrace_directive hsuffix hread 0
    have hletter := h (letter, span) hmem
    simpa using hletter
  · rintro h ⟨letter, span⟩ hmem
    obtain ⟨s, length, hs, hread⟩ := Text.exists_read_of_mem_placed hmem
    obtain ⟨halpha, tail, after, rfl, -⟩ := exists_tail_of_readDirective? hread
    have hletter := h letter (tail ++ after) hs halpha
    simpa using hletter

/-! ### Opening keywords -/

theorem startsOpening_iff {kind : BlockKind} {s : List Char} :
    startsOpening kind s = true ↔
      ∃ rest, s = '{' :: '#' :: (kind.keyword.toList ++ rest) ∧ EndsWord rest := by
  unfold startsOpening
  constructor
  · intro h
    split at h
    · rename_i hcut
      refine ⟨[], (List.isPrefixOf?_eq_some_iff_append_eq.mp hcut).symm, fun next more heq => ?_⟩
      cases heq
    · rename_i first rest hcut
      refine ⟨first :: rest, (List.isPrefixOf?_eq_some_iff_append_eq.mp hcut).symm,
        fun next more heq => ?_⟩
      cases heq
      simpa using h
    · cases h
  · rintro ⟨rest, rfl, hword⟩
    have hcut : ('{' :: '#' :: kind.keyword.toList).isPrefixOf?
        ('{' :: '#' :: (kind.keyword.toList ++ rest)) = some rest :=
      List.isPrefixOf?_eq_some_iff_append_eq.mpr rfl
    rw [hcut]
    cases rest with
    | nil => rfl
    | cons next more => simp [hword next more rfl]

/-- Where an opening keyword stands, a token is read exactly if the opening tag is complete. -/
theorem isSome_read?_iff {kind : BlockKind} {s : List Char} (h : startsOpening kind s = true) :
    (Token.read? s).isSome ↔
      ∃ content after, IsContent content ∧ s = openingSource kind content ++ after := by
  rw [Option.isSome_iff_exists]
  constructor
  · rintro ⟨found, hfound⟩
    obtain ⟨token, after, hproper, rfl, -⟩ := Token.read?_eq_some_iff.mp hfound
    rw [startsOpening_source kind token after hproper] at h
    cases token with
    | opening kind' content =>
        obtain rfl : kind' = kind := by simpa [Token.tag?, Tag.isOpening, Tag.kind] using h
        exact ⟨content, after, hproper, rfl⟩
    | closing kind' => simp [Token.tag?, Tag.isOpening] at h
    | value path => simp [Token.tag?] at h
  · rintro ⟨content, after, hcontent, rfl⟩
    exact ⟨_, Token.read?_eq_some_iff.mpr ⟨.opening kind content, after, hcontent, rfl, rfl⟩⟩

/-- **All opening keywords begin tags exactly if each is followed by what an opening tag needs.** -/
theorem incompleteCount_eq_zero_iff {kind : BlockKind} {text : List Char} :
    incompleteCount kind text = 0 ↔
      ∀ rest, '{' :: '#' :: (kind.keyword.toList ++ rest) <:+ text → EndsWord rest →
        ∃ content after, IsContent content ∧ rest = content ++ '}' :: after := by
  have hcancel (content rest after : List Char) :
      '{' :: '#' :: (kind.keyword.toList ++ rest) = openingSource kind content ++ after ↔
        rest = content ++ '}' :: after := by
    simp [openingSource]
  rw [incompleteCount, Text.countSuffixes_eq_zero_iff]
  constructor
  · intro h rest hsuffix hword
    have hstarts : startsOpening kind ('{' :: '#' :: (kind.keyword.toList ++ rest)) = true :=
      startsOpening_iff.mpr ⟨rest, rfl, hword⟩
    have hoff := h _ _ hsuffix
    rw [offTokens, hstarts, Bool.true_and, Option.isNone_eq_false_iff,
      isSome_read?_iff hstarts] at hoff
    simpa only [hcancel] using hoff
  · intro h c more hsuffix
    cases hstarts : startsOpening kind (c :: more) with
    | false => rw [offTokens, hstarts, Bool.false_and]
    | true =>
        obtain ⟨rest, heq, hword⟩ := startsOpening_iff.mp hstarts
        rw [offTokens, hstarts, Bool.true_and, Option.isNone_eq_false_iff,
          isSome_read?_iff hstarts]
        rw [heq] at hsuffix ⊢
        simpa only [hcancel] using h rest hsuffix hword

/-! ### Nesting -/

/-- A closing tag is no fault exactly if it belongs to the tag on top of the stack, and no fault
follows. -/
theorem nestingFaultsFrom_closing {text : List Char} {stack rest : List Mark} {kind : BlockKind}
    {span : Span} :
    nestingFaultsFrom text stack (⟨.closing kind, span⟩ :: rest) = [] ↔
      ∃ top below, stack = top :: below ∧ (Tag.closing kind).closes top.tag = true ∧
        nestingFaultsFrom text below rest = [] := by
  cases stack with
  | nil => simp [nestingFaultsFrom, Tag.isOpening]
  | cons top below =>
      rw [nestingFaultsFrom, if_neg (by simp [Tag.isOpening])]
      dsimp only
      split
      · rename_i hcloses
        simp [hcloses]
      · rename_i hcloses
        simp [hcloses]

theorem closes_iff {kind : BlockKind} {tag : Tag} :
    (Tag.closing kind).closes tag = true ↔ tag.isOpening = true ∧ kind = tag.kind := by
  cases tag with
  | opening kind' argument => simp [Tag.closes, Tag.isOpening, Tag.kind]
  | closing kind' => simp [Tag.closes, Tag.isOpening]

/-- Without a fault, no more tags are closed than were open or are opened. -/
theorem countP_le_of_no_faults {text : List Char} {stack ms : List Mark}
    (h : nestingFaultsFrom text stack ms = []) :
    ((ms.map Mark.tag).countP fun tag => !tag.isOpening) ≤
      stack.length + (ms.map Mark.tag).countP Tag.isOpening := by
  induction ms generalizing stack with
  | nil => simp
  | cons mark rest ih =>
      obtain ⟨tag, span⟩ := mark
      cases tag with
      | opening kind argument =>
          have hrest : nestingFaultsFrom text (⟨.opening kind argument, span⟩ :: stack) rest = [] :=
            h
          have hle := ih hrest
          rw [List.length_cons] at hle
          rw [List.map_cons, List.countP_cons_of_neg (by simp [Tag.isOpening]),
            List.countP_cons_of_pos rfl]
          omega
      | closing kind =>
          obtain ⟨top, below, rfl, -, hrest⟩ := nestingFaultsFrom_closing.mp h
          have hle := ih hrest
          rw [List.map_cons, List.countP_cons_of_pos rfl,
            List.countP_cons_of_neg (by simp [Tag.isOpening]), List.length_cons]
          omega

/-- Without a fault the stack gets through the tags, if as many are closed as were open or are
opened. -/
theorem nests_of_no_faults {text : List Char} {stack ms : List Mark}
    (h : nestingFaultsFrom text stack ms = [])
    (hcount : stack.length + (ms.map Mark.tag).countP Tag.isOpening =
      (ms.map Mark.tag).countP fun tag => !tag.isOpening) :
    Nests (stack.map fun mark => mark.tag.kind) (ms.map Mark.tag) := by
  induction ms generalizing stack with
  | nil =>
      have hempty : stack = [] := List.eq_nil_of_length_eq_zero (by simpa using hcount)
      rw [hempty]
      rfl
  | cons mark rest ih =>
      obtain ⟨tag, span⟩ := mark
      cases tag with
      | opening kind argument =>
          have hrest : nestingFaultsFrom text (⟨.opening kind argument, span⟩ :: stack) rest = [] :=
            h
          rw [List.map_cons, List.countP_cons_of_pos rfl,
            List.countP_cons_of_neg (by simp [Tag.isOpening])] at hcount
          refine ih hrest ?_
          rw [List.length_cons]
          omega
      | closing kind =>
          obtain ⟨top, below, rfl, hcloses, hrest⟩ := nestingFaultsFrom_closing.mp h
          rw [List.map_cons, List.countP_cons_of_neg (by simp [Tag.isOpening]),
            List.countP_cons_of_pos rfl, List.length_cons] at hcount
          exact ⟨(closes_iff.mp hcloses).2, ih hrest (by omega)⟩

/-- The stack finds no fault in tags that it gets through. -/
theorem no_faults_of_nests {text : List Char} {stack ms : List Mark}
    (h : Nests (stack.map fun mark => mark.tag.kind) (ms.map Mark.tag))
    (hstack : ∀ mark ∈ stack, mark.tag.isOpening = true) :
    nestingFaultsFrom text stack ms = [] := by
  induction ms generalizing stack with
  | nil => rfl
  | cons mark rest ih =>
      obtain ⟨tag, span⟩ := mark
      cases tag with
      | opening kind argument =>
          have hrest : Nests ((⟨.opening kind argument, span⟩ :: stack : List Mark).map
              fun mark => mark.tag.kind) (rest.map Mark.tag) := h
          exact ih hrest (List.forall_mem_cons.mpr ⟨rfl, hstack⟩)
      | closing kind =>
          cases stack with
          | nil => exact h.elim
          | cons top below =>
              obtain ⟨hkind, hrest⟩ := h
              obtain ⟨htop, hbelow⟩ := List.forall_mem_cons.mp hstack
              exact nestingFaultsFrom_closing.mpr
                ⟨top, below, rfl, closes_iff.mpr ⟨htop, hkind⟩, ih hrest hbelow⟩

/-- In a balanced word every kind of block is closed as often as it is opened. -/
theorem Balanced.countP_eq {tags : List Tag} (h : Balanced tags) (kind : BlockKind) :
    (tags.countP fun tag => tag.isOpening && tag.kind == kind) =
      tags.countP fun tag => !tag.isOpening && tag.kind == kind := by
  induction h with
  | nil => rfl
  | block kind' argument _ _ ihbody ihrest =>
      have hopening : (Tag.opening kind' argument).isOpening = true := rfl
      have hclosing : (Tag.closing kind').isOpening = false := rfl
      have hkind : (Tag.opening kind' argument).kind = (Tag.closing kind').kind := rfl
      simp only [List.countP_cons, List.countP_append, ihbody, ihrest, hopening, hclosing, hkind,
        Bool.not_true, Bool.not_false, Bool.true_and, Bool.false_and]
      omega

/-! ### The verdict -/

/-- The check accepts a template if none of its parts finds a fault. -/
theorem isValid_iff_parts {text : List Char} :
    isValid text = true ↔ malformedDirectives text = [] ∧
      (∀ kind, openingCount kind text = closingCount kind text) ∧ nestingFaults text = [] := by
  have hcounts :
      countFaults text = [] ↔ ∀ kind, openingCount kind text = closingCount kind text := by
    have hkind (kind : BlockKind) :
        countFault text kind = none ↔ openingCount kind text = closingCount kind text := by
      simp [countFault]
    rw [countFaults, List.filterMap_eq_nil_iff]
    constructor
    · intro h kind
      exact (hkind kind).mp (h kind (by cases kind <;> simp))
    · intro h kind _
      exact (hkind kind).mpr (h kind)
  rw [isValid, faults, List.isEmpty_iff]
  simp only [List.append_eq_nil_iff, and_assoc]
  refine and_congr_right fun _ => ?_
  rw [← hcounts]
  refine and_congr_right fun hnone => ?_
  simp [hnone]

/-- If the counts agree and the stack finds no fault, then no opening keyword is left without a tag,
and no tag without its block. -/
theorem balanced_of_parts {text : List Char}
    (hcounts : ∀ kind, openingCount kind text = closingCount kind text)
    (hnesting : nestingFaults text = []) :
    (∀ kind, incompleteCount kind text = 0) ∧ Balanced ((marks text).map Mark.tag) := by
  have hopened := countP_kinds Tag.isOpening (tagsIn text)
  have hclosed := countP_kinds (fun tag => !tag.isOpening) (tagsIn text)
  have hkind (kind : BlockKind) := hcounts kind
  simp only [openingCount_eq, closingCount_eq] at hkind
  have hconditional := hkind .conditional
  have hloop := hkind .loop
  -- More are closed than opened, by the number of incomplete keywords; but not more can be.
  have hle := countP_le_of_no_faults hnesting
  rw [tag_marks, List.length_nil, Nat.zero_add] at hle
  have hnone : incompleteCount .conditional text = 0 ∧ incompleteCount .loop text = 0 := by
    omega
  refine ⟨fun kind => ?_, ?_⟩
  · cases kind with
    | conditional => exact hnone.1
    | loop => exact hnone.2
  · refine nests_nil_iff_balanced.mp (nests_of_no_faults hnesting ?_)
    rw [tag_marks, List.length_nil, Nat.zero_add]
    omega

/-- What the check accepts is of the grammar. -/
theorem grammatical_of_isValid {text : List Char} (h : isValid text = true) :
    Grammatical text := by
  obtain ⟨hletters, hcounts, hnesting⟩ := isValid_iff_parts.mp h
  obtain ⟨hnone, hbalanced⟩ := balanced_of_parts hcounts hnesting
  exact ⟨malformedDirectives_eq_nil_iff.mp hletters,
    fun kind => incompleteCount_eq_zero_iff.mp (hnone kind), hbalanced⟩

/-- What is of the grammar is accepted. -/
theorem Grammatical.isValid {text : List Char} (h : Grammatical text) : isValid text = true := by
  refine isValid_iff_parts.mpr ⟨malformedDirectives_eq_nil_iff.mpr h.letters, fun kind => ?_, ?_⟩
  · have hnone : incompleteCount kind text = 0 :=
      incompleteCount_eq_zero_iff.mpr (h.openings kind)
    have hcount := h.balanced.countP_eq kind
    rw [tag_marks] at hcount
    rw [openingCount_eq, closingCount_eq, hnone, hcount, Nat.add_zero]
  · have hnests : Nests (([] : List Mark).map fun mark => mark.tag.kind)
        ((marks text).map Mark.tag) := nests_nil_iff_balanced.mpr h.balanced
    exact no_faults_of_nests hnests (by simp)

/-- **The check accepts exactly the grammar**, and in a template that it accepts every tag is in
exactly one block. -/
theorem isValid_iff_grammatical (text : List Char) :
    (isValid text = true ↔ Grammatical text) ∧
      (isValid text = true → ∀ mark ∈ marks text,
        (matchedBlocks (marks text)).countP (fun found => decide (mark ∈ found.2.marks)) = 1) :=
  ⟨⟨grammatical_of_isValid, Grammatical.isValid⟩,
    fun h _ hmark => countP_matchedBlocks (grammatical_of_isValid h).balanced hmark⟩

/-- A conditional block in a loop. -/
def nestedBlocks : List Char :=
  (Text.braced "#each xs" ++ Text.braced "#if a" ++ "x" ++ Text.braced "/if" ++
    Text.braced "/each").toList

/-- The check accepts a conditional block in a loop, so that it is of the grammar, and each of its
four tags is in one of its two blocks. -/
theorem nestedBlocks_grammatical :
    isValid nestedBlocks = true ∧ Grammatical nestedBlocks ∧ (marks nestedBlocks).length = 4 ∧
      (matchedBlocks (marks nestedBlocks)).length = 2 ∧ ∀ mark ∈ marks nestedBlocks,
        (matchedBlocks (marks nestedBlocks)).countP
          (fun found => decide (mark ∈ found.2.marks)) = 1 := by
  have hvalid : isValid nestedBlocks = true := by decide +kernel
  have hmarks : (marks nestedBlocks).length = 4 := by decide +kernel
  have hblocks : (matchedBlocks (marks nestedBlocks)).length = 2 := by
    rw [matchedBlocks, List.length_mergeSort]
    decide +kernel
  obtain ⟨haccepts, honce⟩ := isValid_iff_grammatical nestedBlocks
  exact ⟨hvalid, haccepts.mp hvalid, hmarks, hblocks, honce hvalid⟩

/-- The counts agree here, but the keyword begins no tag. -/
example : countFaults (Text.braced "#if" ++ Text.braced "/if").toList = [] ∧
    isValid (Text.braced "#if" ++ Text.braced "/if").toList = false := by
  decide +kernel

end Rulebook.Template
