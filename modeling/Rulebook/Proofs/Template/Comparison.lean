/-
**Comparisons go by the text that is shown.**

A side of a comparison is a path or a text between quotes.  A path stands for the text that it is
shown as between braces, and a name that is missing for the empty text; so two paths are equal
exactly if a template shows the same for both, and a path is equal to a quoted text exactly if it is
shown as this text.  What the text holds between its quotes does not matter: the comparison sign is
looked for outside of quotes.

There is one exception.  A bare number stands for itself, and whether a side is one is found out by
reading it as a floating-point literal, which is also how the words for infinity and for "not a
number" are written.  These words are paths as well.  A path that is such a word, with nothing under
it in the context, is shown as the empty text and compared as the word
(`Rulebook.Template.Side.compared`).  Everything else is compared as it is shown.

Main definitions:

* `Rulebook.Template.Side` — the sides of a comparison, with `source`, `shown` and `compared`;
* `Rulebook.Template.Side.isUnknownWord` — a word for a number under which there is nothing;
* `Rulebook.Template.comparison` — the text of a comparison;
* `Rulebook.Template.ComparesBy` — a comparison of two sides goes by certain texts.

Main results:

* `Rulebook.Template.splitComparison_comparison` — a comparison is taken apart into its sides;
* `Rulebook.Template.Side.operand_source` — a side is evaluated to the text that it is compared as;
* `Rulebook.Template.comparesBy_shown_iff` — **comparisons with a path go by the text that is shown
  exactly if the path is not an unknown word for a number**.
-/

import Rulebook.Proofs.Template.Counting
import Rulebook.Proofs.Template.Meaning
import Rulebook.Proofs.Template.Needs
import Rulebook.Proofs.Text.Lines

set_option autoImplicit false

namespace Rulebook.Template

/-! ### Sides -/

/-- A side of a comparison. -/
inductive Side where
  /-- A path. -/
  | path (name : List Char)
  /-- A text between double quotes. -/
  | quoted (text : List Char)
  deriving DecidableEq, Repr

/-- Whether a text is one of the words among the floating-point literals, without a sign. -/
def isNumberWord (s : List Char) : Bool :=
  Text.toLower s == "inf".toList || Text.toLower s == "infinity".toList ||
    Text.toLower s == "nan".toList

namespace Side

/-- The text of a side. -/
def source : Side → List Char
  | path name => name
  | quoted text => '\x22' :: (text ++ ['\x22'])

/-- The side is what its text says: the path is that of a variable, and not a truth value or
`null`; the text between the quotes has no such quotes. -/
def Formed : Side → Prop
  | path name =>
    IsPath name ∧ name ≠ "true".toList ∧ name ≠ "false".toList ∧ name ≠ "null".toList
  | quoted text => '\x22' ∉ text

/-- What a template shows for a side: what a variable with the path is rendered to, or the text
between the quotes. -/
def shown (context : Json) : Side → List Char
  | path name => renderText context (variableSource name)
  | quoted text => text

/-- Whether a side is a path that is a word for a number, with nothing under it. -/
def isUnknownWord (context : Json) : Side → Bool
  | path name => isNumberWord name && (lookUp context name).isNone
  | quoted _ => false

/-- What a side is compared as. -/
def compared (context : Json) (side : Side) : List Char :=
  if side.isUnknownWord context then side.source else side.shown context

end Side

/-- The text of a comparison, with blanks around its sign. -/
def comparison (left : Side) (before : List Char) (equal : Bool) (after : List Char)
    (right : Side) : List Char :=
  left.source ++ (before ++ ((if equal then ['=', '='] else ['!', '=']) ++ (after ++ right.source)))

/-- The comparison of two sides goes by the texts given: the condition that they are equal holds
exactly if their texts are, and the conditions that they are unequal, or not equal, hold exactly if
their texts are not. -/
def ComparesBy (text : Side → List Char) (context : Json) (left right : Side) : Prop :=
  ∀ before after : List Char, Text.allBlank before = true → Text.allBlank after = true →
    (holds context (comparison left before true after right) = true ↔ text left = text right) ∧
    (holds context (comparison left before false after right) = true ↔ text left ≠ text right) ∧
    (holds context ('!' :: comparison left before true after right) = true ↔
      text left ≠ text right)

/-! ### What is shown -/

/-- A variable is rendered to the text of the value at its path. -/
theorem renderText_variableSource {context : Json} (hcontext : context.Lacks standIn)
    {path : List Char} (hpath : IsPath path) :
    renderText context (variableSource path) = displayOption (lookUp context path) := by
  have hproper : (Passage.value path .nil).Proper := ⟨hpath, trivial⟩
  have hsource : (Passage.value path .nil).source = variableSource path := List.append_nil _
  have hmeaning : (Passage.value path .nil).meaning context =
      displayOption (lookUp context path) := List.append_nil _
  rw [renderText, ← hsource, renderScoped_source context hproper, hmeaning,
    unmask_mask (not_mem_displayOption standIn_not_ascii hcontext path)]

/-! ### Literals -/

/-- No name begins with a digit. -/
theorem isDigit_of_isNameStart {c : Char} (h : isNameStart c = true) : c.isDigit = false := by
  rw [Bool.eq_false_iff]
  intro hdigit
  rw [Char.isDigit, Bool.and_eq_true, decide_eq_true_eq, decide_eq_true_eq] at hdigit
  have hnumber : 48 ≤ c.toNat ∧ c.toNat < 58 :=
    ⟨UInt32.le_iff_toNat_le.mp hdigit.1, Nat.lt_succ_of_le (UInt32.le_iff_toNat_le.mp hdigit.2)⟩
  have hall : ∀ n ∈ List.range' 48 10, isNameStart (Char.ofNat n) = false := by
    decide +kernel
  have hc := hall c.toNat (List.mem_range'_1.mpr hnumber)
  rw [Char.ofNat_toNat, h] at hc
  cases hc

/-- A path begins with neither a digit nor a decimal point, nor a sign. -/
theorem IsPath.exists_head {path : List Char} (h : IsPath path) :
    ∃ first rest, path = first :: rest ∧ first.isDigit = false ∧ first ∉ ['+', '-', '.'] := by
  obtain ⟨first, rest, rfl, hfirst, -⟩ | ⟨name, rfl, -⟩ := h
  · refine ⟨first, rest, rfl, isDigit_of_isNameStart hfirst, fun hmem => ?_⟩
    simp only [List.mem_cons, List.not_mem_nil, or_false] at hmem
    obtain rfl | rfl | rfl := hmem <;> exact absurd hfirst (by decide)
  · exact ⟨'@', name, rfl, rfl, by decide⟩

/-- A path is read as a floating-point literal exactly if it is one of the words. -/
theorem isSome_float?_of_isPath {path : List Char} (h : IsPath path) :
    (Literal.float? path).isSome = isNumberWord path := by
  obtain ⟨first, rest, rfl, hdigit, hsign⟩ := h.exists_head
  simp only [List.mem_cons, List.not_mem_nil, or_false, not_or] at hsign
  obtain ⟨hplus, hminus, hdot⟩ := hsign
  have hsplit : Literal.splitSign (first :: rest) = (false, first :: rest) := by
    rw [Literal.splitSign.eq_def]
    split
    · rename_i heq
      exact absurd (List.cons.inj heq).1 hplus
    · rename_i heq
      exact absurd (List.cons.inj heq).1 hminus
    · rfl
  have hdecimal : Literal.unsignedFloat? false (first :: rest) = none := by
    rw [Literal.unsignedFloat?, List.takeWhile_cons, if_neg (Bool.eq_false_iff.mp hdigit),
      List.dropWhile_cons, if_neg (Bool.eq_false_iff.mp hdigit)]
    split
    · rename_i heq
      exact absurd (List.cons.inj heq).1 hdot
    · rfl
  rw [Literal.float?, hsplit, isNumberWord]
  simp only [hdecimal]
  generalize Text.toLower (first :: rest) = word
  split
  · rename_i hinfinity
    rcases hinfinity with rfl | rfl <;> rfl
  · split
    · rename_i hnan
      rw [hnan]
      rfl
    · simp_all

/-- A path that is no truth value, nor `null`, is a bare literal exactly if it is a word for a
number. -/
theorem Side.Formed.isBareLiteral_eq {name : List Char} (h : (path name).Formed) :
    isBareLiteral name = isNumberWord name := by
  obtain ⟨hpath, htrue, hfalse, hnull⟩ := h
  rw [isBareLiteral, isSome_float?_of_isPath hpath, beq_false_of_ne htrue, beq_false_of_ne hfalse,
    beq_false_of_ne hnull]
  rfl

/-! ### Sides as they are evaluated -/

namespace Side

variable {context : Json} {side : Side}

theorem Formed.ends (h : side.Formed) :
    Text.Ends (fun c => Text.isBlank c = false) side.source := by
  cases side with
  | path name => exact Text.ends_of_forall fun c hc => h.1.isBlank_eq_false hc
  | quoted text =>
      refine ⟨fun c hc => ?_, fun c hc => ?_⟩
      · cases hc
        rfl
      · rw [source, ← List.cons_append, List.getLast?_concat] at hc
        cases hc
        rfl

theorem Formed.source_ne_nil (h : side.Formed) : side.source ≠ [] := by
  cases side with
  | path name => exact h.1.ne_nil
  | quoted text => exact List.cons_ne_nil _ _

/-- A side begins with neither part of a comparison sign. -/
theorem Formed.exists_head (h : side.Formed) :
    ∃ first rest, side.source = first :: rest ∧ first ≠ '!' ∧ first ≠ '=' := by
  cases side with
  | path name =>
      obtain ⟨first, rest, rfl⟩ := List.exists_cons_of_ne_nil h.1.ne_nil
      exact ⟨first, rest, rfl, h.1.head_ne (by decide) (by decide),
        h.1.head_ne (by decide) (by decide)⟩
  | quoted text => exact ⟨'\x22', text ++ ['\x22'], rfl, by decide, by decide⟩

theorem quotedText?_path {name : List Char} (h : (path name).Formed) : quotedText? name = none := by
  obtain ⟨first, rest, rfl⟩ := List.exists_cons_of_ne_nil h.1.ne_nil
  have hfirst : ¬ (first = '\x22' ∨ first = '\x27') :=
    not_or.mpr ⟨h.1.head_ne (by decide) (by decide), h.1.head_ne (by decide) (by decide)⟩
  rw [quotedText?, if_neg fun hquoted => hfirst hquoted.1]

theorem quotedText?_quoted (text : List Char) :
    quotedText? (quoted text).source = some text := by
  rw [source, quotedText?, List.getLast?_concat, if_pos ⟨Or.inl rfl, rfl⟩, List.dropLast_concat]

/-- **A side is evaluated to the text that it is compared as**, with blanks around it. -/
theorem operand_source (hcontext : context.Lacks standIn) (h : side.Formed)
    {before after : List Char} (hbefore : Text.allBlank before = true)
    (hafter : Text.allBlank after = true) :
    operand context (before ++ (side.source ++ after)) = side.compared context := by
  have htrim : Text.trim (before ++ (side.source ++ after)) = side.source := by
    rw [Text.trim_blanks_append hbefore, Text.trim_append_blanks hafter,
      Text.trim_eq_self_iff_ends.mpr h.ends]
  rw [operand, htrim]
  cases side with
  | path name =>
      simp only [source, compared, isUnknownWord, shown, quotedText?_path h, h.isBareLiteral_eq,
        renderText_variableSource hcontext h.1]
      cases lookUp context name with
      | some value => simp [displayOption]
      | none => simp [displayOption]
  | quoted text => simp only [quotedText?_quoted]; rfl

end Side

/-! ### Comparisons as they are evaluated -/

/-- A comparison with more text before it. -/
def Comparison.prepend (s : List Char) (c : Comparison) : Comparison :=
  { c with left := s ++ c.left }

/-- The characters with which a quoted text or a comparison sign begins. -/
def signals : List Char := ['\x22', '\x27', '=', '!']

theorem of_mem_signals {c : Char} (h : c ∈ signals) :
    isPathChar c = false ∧ c ≠ '@' ∧ Text.isBlank c = false := by
  simp only [signals, List.mem_cons, List.not_mem_nil, or_false] at h
  obtain rfl | rfl | rfl | rfl := h <;> decide

/-- A text without these characters is passed over. -/
theorem splitFromQuote_append {s : List Char} (h : ∀ c ∈ s, c ∉ signals) (rest : List Char) :
    splitFromQuote none (s ++ rest) = (splitFromQuote none rest).map (Comparison.prepend s) := by
  induction s with
  | nil => exact Option.map_id'.symm
  | cons c s ih =>
      obtain ⟨hc, hs⟩ := List.forall_mem_cons.mp h
      have hquote : isQuote c = false := by
        rw [Bool.eq_false_iff]
        intro hquote
        rw [isQuote, Bool.or_eq_true, beq_iff_eq, beq_iff_eq] at hquote
        rcases hquote with rfl | rfl <;> exact hc (by decide)
      have hsign : ¬ ((c = '=' ∨ c = '!') ∧ (s ++ rest).head? = some '=') := by
        rintro ⟨rfl | rfl, -⟩ <;> exact hc (by decide)
      rw [List.cons_append, splitFromQuote_cons hquote hsign, ih hs, Option.map_map]
      rfl

/-- Inside of quotes everything is passed over up to the next quote. -/
theorem splitFromQuote_quoted {q : Char} {s : List Char} (h : q ∉ s) (rest : List Char) :
    splitFromQuote (some q) (s ++ q :: rest) =
      (splitFromQuote none rest).map (Comparison.prepend (s ++ [q])) := by
  induction s with
  | nil =>
      rw [List.nil_append, splitFromQuote, if_pos rfl]
      rfl
  | cons c s ih =>
      rw [List.mem_cons, not_or] at h
      rw [List.cons_append, splitFromQuote, if_neg (Ne.symm h.1), ih h.2, Option.map_map]
      rfl

/-- A side is passed over as a whole. -/
theorem splitFromQuote_source {side : Side} (h : side.Formed) (rest : List Char) :
    splitFromQuote none (side.source ++ rest) =
      (splitFromQuote none rest).map (Comparison.prepend side.source) := by
  cases side with
  | path name =>
      refine splitFromQuote_append (fun c hc hmem => ?_) rest
      obtain ⟨hpath, hat, -⟩ := of_mem_signals hmem
      exact h.1.not_mem hpath hat hc
  | quoted text =>
      have hopen : splitFromQuote none ((Side.quoted text).source ++ rest) =
          (splitFromQuote (some '\x22') (text ++ '\x22' :: rest)).map (Comparison.push '\x22') := by
        rw [Side.source, List.cons_append, List.append_assoc]
        rfl
      rw [hopen, splitFromQuote_quoted h, Option.map_map]
      rfl

/-- **A comparison is taken apart into its sides**, whatever stands between quotes. -/
theorem splitComparison_comparison {left right : Side} (hleft : left.Formed) {before : List Char}
    (hbefore : Text.allBlank before = true) (equal : Bool) (after : List Char) :
    splitComparison (comparison left before equal after right) =
      some ⟨left.source ++ before, equal, after ++ right.source⟩ := by
  have hblank : ∀ c ∈ before, c ∉ signals := by
    intro c hc hmem
    have hblank := List.all_eq_true.mp hbefore c hc
    rw [(of_mem_signals hmem).2.2] at hblank
    cases hblank
  rw [splitComparison, comparison, splitFromQuote_source hleft, splitFromQuote_append hblank]
  cases equal <;> simp [splitFromQuote, Comparison.prepend]

section Holding

variable {context : Json} {left right : Side} {before after : List Char}

theorem ends_comparison (hleft : left.Formed) (hright : right.Formed) (before : List Char)
    (equal : Bool) (after : List Char) :
    Text.Ends (fun c => Text.isBlank c = false) (comparison left before equal after right) := by
  have hbetween : comparison left before equal after right =
      left.source ++ (before ++ ((if equal then ['=', '='] else ['!', '=']) ++ after)) ++
        right.source := by
    simp only [comparison, List.append_assoc]
  rw [hbetween]
  exact hleft.ends.append hright.ends hleft.source_ne_nil hright.source_ne_nil _

theorem exists_head_comparison (hleft : left.Formed) (before : List Char) (equal : Bool)
    (after : List Char) (right : Side) :
    ∃ first rest, comparison left before equal after right = first :: rest ∧ first ≠ '!' ∧
      first ≠ '=' := by
  obtain ⟨first, rest, hsource, hmark, hequal⟩ := hleft.exists_head
  rw [comparison, hsource]
  exact ⟨first, _, rfl, hmark, hequal⟩

/-- **A comparison holds as its sides are compared.** -/
theorem holds_comparison (hcontext : context.Lacks standIn) (hleft : left.Formed)
    (hright : right.Formed) (hbefore : Text.allBlank before = true)
    (hafter : Text.allBlank after = true) (equal : Bool) :
    holds context (comparison left before equal after right) =
      ((left.compared context == right.compared context) == equal) := by
  have htrim := Text.trim_eq_self_iff_ends.mpr (ends_comparison hleft hright before equal after)
  have hnegated : negated? (comparison left before equal after right) = none := by
    obtain ⟨first, rest, heq, hmark, -⟩ := exists_head_comparison hleft before equal after right
    rw [heq, negated?_cons hmark]
  have hl : operand context ([] ++ (left.source ++ before)) = left.compared context :=
    Side.operand_source hcontext hleft rfl hbefore
  have hr : operand context (after ++ (right.source ++ [])) = right.compared context :=
    Side.operand_source hcontext hright hafter rfl
  rw [List.nil_append] at hl
  rw [List.append_nil] at hr
  rw [holds_of_negated?_eq_none (by rw [htrim, hnegated]), htrim, holdsPlain,
    splitComparison_comparison hleft hbefore]
  simp only [hl, hr]

/-- An exclamation mark in front of a comparison negates it. -/
theorem holds_mark_comparison (hleft : left.Formed) (hright : right.Formed) (before : List Char)
    (equal : Bool) (after : List Char) :
    holds context ('!' :: comparison left before equal after right) =
      !holds context (comparison left before equal after right) := by
  refine holds_of_negated? ?_
  obtain ⟨first, rest, heq, -, hequal⟩ := exists_head_comparison hleft before equal after right
  have hends := ends_comparison hleft hright before equal after
  have hmark : Text.Ends (fun c => Text.isBlank c = false) ['!'] :=
    Text.ends_of_forall (by simp; decide)
  rw [heq] at hends ⊢
  have htrim : Text.trim ('!' :: first :: rest) = '!' :: first :: rest :=
    Text.trim_eq_self_iff_ends.mpr
      (hmark.append hends (List.cons_ne_nil _ _) (List.cons_ne_nil _ _) [])
  rw [htrim, negated?_mark hequal]

end Holding

/-! ### What comparisons go by -/

variable {context : Json}

/-- Comparisons go by what their sides are compared as. -/
theorem comparesBy_compared (hcontext : context.Lacks standIn) {left right : Side}
    (hleft : left.Formed) (hright : right.Formed) :
    ComparesBy (Side.compared context) context left right := by
  intro before after hbefore hafter
  rw [holds_mark_comparison hleft hright, holds_comparison hcontext hleft hright hbefore hafter,
    holds_comparison hcontext hleft hright hbefore hafter]
  refine ⟨?_, ?_, ?_⟩ <;> simp

/-- A side that is no unknown word for a number is compared as what is shown for it. -/
theorem Side.compared_of_known {side : Side} (h : side.isUnknownWord context = false) :
    side.compared context = side.shown context := by
  rw [compared, h]
  rfl

/-- An unknown word for a number is compared as itself, and nothing is shown for it. -/
theorem Side.of_isUnknownWord (hcontext : context.Lacks standIn) {name : List Char}
    (hname : (path name).Formed) (h : (path name).isUnknownWord context = true) :
    (path name).compared context = name ∧ (path name).shown context = [] := by
  constructor
  · rw [compared, h]
    rfl
  · rw [isUnknownWord, Bool.and_eq_true, Option.isNone_iff_eq_none] at h
    rw [shown, renderText_variableSource hcontext hname.1, h.2]
    rfl

theorem ComparesBy.congr {text text' : Side → List Char} {left right : Side}
    (h : ComparesBy text context left right) (hleft : text left = text' left)
    (hright : text right = text' right) : ComparesBy text' context left right := by
  intro before after hbefore hafter
  rw [← hleft, ← hright]
  exact h before after hbefore hafter

/-- **Comparisons go by the text that is shown**, but for words for numbers.  Any two sides are
compared as `Rulebook.Template.Side.compared` says, with any blanks around the sign.  A path is
compared by the text that is shown for it, with every side that is not an unknown word for a number,
exactly if it is not such a word itself. -/
theorem comparesBy_shown_iff (hcontext : context.Lacks standIn) :
    (∀ left right : Side, left.Formed → right.Formed →
      ComparesBy (Side.compared context) context left right) ∧
    ∀ name, (Side.path name).Formed →
      ((∀ other : Side, other.Formed → other.isUnknownWord context = false →
          ComparesBy (Side.shown context) context (.path name) other ∧
            ComparesBy (Side.shown context) context other (.path name)) ↔
        (Side.path name).isUnknownWord context = false) := by
  refine ⟨fun left right => comparesBy_compared hcontext, fun name hname => ⟨fun h => ?_, ?_⟩⟩
  · -- The comparison with the empty text tells an unknown word from what is shown for it.
    rw [Bool.eq_false_iff]
    intro hword
    obtain ⟨hcompared, hshown⟩ := Side.of_isUnknownWord hcontext hname hword
    have hempty : (Side.quoted []).Formed := List.not_mem_nil
    have hcompares := (comparesBy_compared hcontext hname hempty [] [] rfl rfl).1
    have hshows := ((h (.quoted []) hempty rfl).1 [] [] rfl rfl).1
    rw [hcompares, hcompared, hshown] at hshows
    exact hname.1.ne_nil (hshows.mpr rfl)
  · intro hknown other hother hother'
    have hself := Side.compared_of_known hknown
    have hsame := Side.compared_of_known hother'
    exact ⟨(comparesBy_compared hcontext hname hother).congr hself hsame,
      (comparesBy_compared hcontext hother hname).congr hsame hself⟩

/-- A context with a text that holds quotes and a sign, and with a list of lists. -/
def quotations : Json :=
  .object [("motto", .string "it's a != b"), ("rows", .array [.array [.bool true, .null], .null])]

/-- The text between the quotes is compared as it stands; the length of the list is shown as a
number; and a name that is missing is equal to the empty text. -/
theorem quotations_compared :
    quotations.Lacks standIn ∧
      holds quotations "motto == \"it's a != b\"".toList = true ∧
      holds quotations "!rows.length == \"2\"".toList = false ∧
      holds quotations "\"\" != missing".toList = false := by
  have hlacks : quotations.Lacks standIn := by
    simp only [quotations, Json.Lacks, Json.LacksFields, Json.LacksItems]
    decide +kernel
  have hpath (first : Char) (rest : List Char) (hfirst : isNameStart first = true)
      (hrest : rest.all isPathChar = true) : IsPath (first :: rest) :=
    Or.inl ⟨first, rest, rfl, hfirst, List.all_eq_true.mp hrest⟩
  have hmotto : (Side.path "motto".toList).Formed :=
    ⟨hpath 'm' _ (by decide) (by decide), by decide, by decide, by decide⟩
  have hlength : (Side.path "rows.length".toList).Formed :=
    ⟨hpath 'r' _ (by decide) (by decide), by decide, by decide, by decide⟩
  have hmissing : (Side.path "missing".toList).Formed :=
    ⟨hpath 'm' _ (by decide) (by decide), by decide, by decide, by decide⟩
  have hshown {name : List Char} (h : IsPath name) :
      (Side.path name).shown quotations = displayOption (lookUp quotations name) :=
    renderText_variableSource hlacks h
  have htext : '\x22' ∉ "it's a != b".toList := by decide
  have hdigit : '\x22' ∉ "2".toList := by decide
  obtain ⟨-, hby⟩ := comparesBy_shown_iff hlacks
  have hfirst := ((hby _ hmotto).mpr rfl (.quoted "it's a != b".toList) htext rfl).1
  have hsecond := ((hby _ hlength).mpr rfl (.quoted "2".toList) hdigit rfl).1
  have hthird := ((hby _ hmissing).mpr rfl (.quoted []) List.not_mem_nil rfl).2
  refine ⟨hlacks, (hfirst [' '] [' '] rfl rfl).1.mpr ?_, ?_, ?_⟩
  · rw [hshown hmotto.1]
    decide +kernel
  · rw [Bool.eq_false_iff]
    intro hholds
    refine (hsecond [' '] [' '] rfl rfl).2.2.mp hholds ?_
    rw [hshown hlength.1]
    decide +kernel
  · rw [Bool.eq_false_iff]
    intro hholds
    refine (hthird [' '] [' '] rfl rfl).2.1.mp hholds ?_
    rw [hshown hmissing.1]
    decide +kernel

/-- With nothing under it, `nan` is rendered to nothing, but is not equal to the empty text. -/
theorem not_always_as_shown :
    (Json.object []).Lacks standIn ∧ (Side.path "nan".toList).Formed ∧
      ¬ (holds (.object []) "nan == \"\"".toList = true ↔
        renderText (.object []) (Text.braced "nan").toList = []) := by
  have hlacks : (Json.object []).Lacks standIn := trivial
  have hnan : (Side.path "nan".toList).Formed :=
    ⟨Or.inl ⟨'n', "an".toList, rfl, by decide, List.all_eq_true.mp (by decide)⟩, by decide,
      by decide, by decide⟩
  have hempty : (Side.quoted []).Formed := List.not_mem_nil
  obtain ⟨hcompared, hshown⟩ := Side.of_isUnknownWord hlacks hnan rfl
  have hholds := (comparesBy_compared hlacks hnan hempty [' '] [' '] rfl rfl).1
  rw [hcompared] at hholds
  refine ⟨hlacks, hnan, fun h => ?_⟩
  have heq := hholds.mp (h.mpr hshown)
  exact absurd heq (by decide)

end Rulebook.Template
