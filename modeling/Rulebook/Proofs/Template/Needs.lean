/-
**The names that a template needs, and those that are looked up.**

The names that a template needs are read from its tags without evaluating anything.  For a variable
and a loop there is one path to read.  A condition is read once more when it is evaluated, and not
in quite the same way: its negations are taken off one by one, with the blanks between them, and it
is split at the first comparison sign outside of quotes.  The names that are collected are those
that are looked up as long as each mention is read alike (`Rulebook.Template.Mention.Agrees`).
Conditions that are written in a plain way are; but a sign within quotes, among other things, takes
a condition apart where it is not evaluated so (`Rulebook.Template.not_always_looked_up`).

Main definitions:

* `Rulebook.Template.evaluatedSides` — the sides of a condition as it is evaluated;
* `Rulebook.Template.Mention.names`, `Rulebook.Template.Mention.lookedUpNames` — the names that are
  collected from a mention, and those that are looked up for it;
* `Rulebook.Template.IsPlainCondition` — conditions that are written in a plain way.

Main results:

* `Rulebook.Template.holds_congr` — evaluation looks at the sides only;
* `Rulebook.Template.conditionSides_eq` — a plain condition is read alike;
* `Rulebook.Template.neededNames_of_agrees` — **the names that a template needs are those that are
  looked up outside of loop bodies**, if each mention is read alike;
* `Rulebook.Template.neededNames_conditional_iff` — for one condition this is necessary.
-/

import Rulebook.Proofs.Template.Literal
import Rulebook.Proofs.Template.Mentions
import Rulebook.Proofs.Text.Segments

set_option autoImplicit false

namespace Rulebook

/-! ### Lists without repetitions -/

section

variable {α : Type} [BEq α] [LawfulBEq α]

omit [LawfulBEq α] in
/-- Repetitions are taken out of a list item by item. -/
@[elab_as_elim]
theorem eraseDups_induction {motive : List α → Prop} (nil : motive [])
    (cons : ∀ a l, motive (l.filter fun b => !b == a) → motive (a :: l)) (l : List α) :
    motive l := by
  induction hn : l.length using Nat.strongRecOn generalizing l with
  | ind n ih =>
      cases l with
      | nil => exact nil
      | cons a l =>
          have hlt : (l.filter fun b => !b == a).length < n := by
            rw [← hn]
            exact Nat.lt_succ_of_le (List.length_filter_le _ _)
          exact cons a l (ih _ hlt _ rfl)

/-- What is taken out of a list is taken out of what is left without repetitions. -/
theorem eraseDups_filter (p : α → Bool) (l : List α) :
    (l.filter p).eraseDups = l.eraseDups.filter p := by
  induction l using eraseDups_induction with
  | nil => rfl
  | cons a l ih =>
      rw [List.eraseDups_cons]
      by_cases ha : p a = true
      · rw [List.filter_cons_of_pos ha, List.filter_cons_of_pos ha, List.eraseDups_cons, ← ih,
          List.filter_comm]
      · -- There is no `a` left to be taken out.
        have hsame : ((l.filter fun b => !b == a).filter p) = l.filter p := by
          rw [List.filter_filter]
          refine List.filter_congr fun b _ => ?_
          by_cases hba : b = a
          · simp [hba, ha]
          · simp [hba]
        rw [List.filter_cons_of_neg ha, List.filter_cons_of_neg ha, ← ih, hsame]

theorem nodup_eraseDups (l : List α) : l.eraseDups.Nodup := by
  induction l using eraseDups_induction with
  | nil => exact List.Pairwise.nil
  | cons a l ih =>
      rw [List.eraseDups_cons, List.nodup_cons]
      refine ⟨fun hmem => ?_, ih⟩
      rw [List.mem_eraseDups, List.mem_filter] at hmem
      simpa using hmem.2

/-- Two lists joined have the same items but for repetitions, if both parts have. -/
theorem eraseDups_append_congr {a a' b b' : List α} (ha : a.eraseDups = a'.eraseDups)
    (hb : b.eraseDups = b'.eraseDups) : (a ++ b).eraseDups = (a' ++ b').eraseDups := by
  have helem (x : α) : a.elem x = a'.elem x := by
    have hmem : x ∈ a ↔ x ∈ a' := by
      rw [← List.mem_eraseDups, ha, List.mem_eraseDups]
    simp [hmem]
  rw [List.eraseDups_append, List.eraseDups_append, List.removeAll, List.removeAll,
    eraseDups_filter, eraseDups_filter, ha, hb]
  simp only [helem]

end

namespace Template

/-! ### Conditions as they are evaluated -/

/-- A condition without its negations and the blanks around it. -/
def affirmed (condition : List Char) : List Char :=
  match _h : negated? (Text.trim condition) with
  | some rest => affirmed rest
  | none => Text.trim condition
termination_by condition.length
decreasing_by
  exact Nat.lt_of_lt_of_le (length_lt_of_negated? _h) (Text.length_trim_le condition)

/-- The sides of a condition without negations: those of its comparison, or else the condition
itself. -/
def comparedSides (plain : List Char) : List (List Char) :=
  match splitComparison plain with
  | some c => [Text.trim c.left, Text.trim c.right]
  | none => [plain]

/-- The sides of a condition as it is evaluated. -/
def evaluatedSides (condition : List Char) : List (List Char) :=
  comparedSides (affirmed condition)

/-- The sides of a condition as it is evaluated, without those that are literals. -/
def evaluatedPaths (condition : List Char) : List (List Char) :=
  (evaluatedSides condition).filter fun side =>
    (quotedText? side).isNone && !isBareLiteral side

theorem affirmed_of_negated? {condition rest : List Char}
    (h : negated? (Text.trim condition) = some rest) : affirmed condition = affirmed rest := by
  rw [affirmed]
  split
  · rename_i other hother
    rw [h] at hother
    cases hother
    rfl
  · rename_i hnone
    rw [h] at hnone
    cases hnone

theorem affirmed_of_negated?_eq_none {condition : List Char}
    (h : negated? (Text.trim condition) = none) : affirmed condition = Text.trim condition := by
  rw [affirmed]
  split
  · rename_i other hother
    rw [h] at hother
    cases hother
  · rfl

/-- A condition that negates none is evaluated as it is, without the blanks around it. -/
theorem holds_of_negated?_eq_none {context : Json} {condition : List Char}
    (h : negated? (Text.trim condition) = none) :
    holds context condition = holdsPlain context (Text.trim condition) := by
  rw [holds]
  split
  · rename_i rest hrest
    rw [h] at hrest
    cases hrest
  · rfl

/-- A condition that negates another one holds exactly if this one does not. -/
theorem holds_of_negated? {context : Json} {condition rest : List Char}
    (h : negated? (Text.trim condition) = some rest) :
    holds context condition = !holds context rest := by
  rw [holds]
  split
  · rename_i other hother
    rw [h] at hother
    cases hother
    rfl
  · rename_i hnone
    rw [h] at hnone
    cases hnone

theorem holdsPlain_congr {a b : Json} {plain : List Char}
    (h : ∀ side ∈ comparedSides plain, lookUp a side = lookUp b side) :
    holdsPlain a plain = holdsPlain b plain := by
  rw [comparedSides] at h
  rw [holdsPlain, holdsPlain]
  cases hsplit : splitComparison plain with
  | none =>
      rw [hsplit] at h
      simp only
      rw [h plain (by simp)]
  | some c =>
      rw [hsplit] at h
      have hleft : operand a c.left = operand b c.left := by
        rw [operand, operand, h (Text.trim c.left) (by simp)]
      have hright : operand a c.right = operand b c.right := by
        rw [operand, operand, h (Text.trim c.right) (by simp)]
      simp only
      rw [hleft, hright]

/-- **Evaluation looks at the sides only**: where they are the same, the condition holds alike. -/
theorem holds_congr {a b : Json} {condition : List Char}
    (h : ∀ side ∈ evaluatedSides condition, lookUp a side = lookUp b side) :
    holds a condition = holds b condition := by
  induction hn : condition.length using Nat.strongRecOn generalizing condition with
  | ind n ih =>
      rw [evaluatedSides] at h
      cases hnegated : negated? (Text.trim condition) with
      | some rest =>
          have hlt : rest.length < n := by
            rw [← hn]
            exact Nat.lt_of_lt_of_le (length_lt_of_negated? hnegated)
              (Text.length_trim_le condition)
          rw [affirmed_of_negated? hnegated] at h
          rw [holds_of_negated? hnegated, holds_of_negated? hnegated, ih rest.length hlt h rfl]
      | none =>
          rw [affirmed_of_negated?_eq_none hnegated] at h
          rw [holds_of_negated?_eq_none hnegated, holds_of_negated?_eq_none hnegated]
          exact holdsPlain_congr h

/-! ### Plain conditions -/

/-- Whether a character is a quote. -/
def isQuote (c : Char) : Bool := c == '\x22' || c == '\x27'

/-- Nothing in front of the comparison sign that is taken for one keeps it from being the first
outside of quotes: no quote, and no sign of the other kind. -/
def SignsApart (plain : List Char) : Prop :=
  match Text.splitFirst ['!', '='] plain with
  | some (left, _) => left.any isQuote = false ∧ Text.splitFirst ['=', '='] left = none
  | none =>
    match Text.splitFirst ['=', '='] plain with
    | some (left, _) => left.any isQuote = false
    | none => True

instance (plain : List Char) : Decidable (SignsApart plain) := by
  unfold SignsApart
  split
  · infer_instance
  · split <;> infer_instance

/-- A condition is written in a plain way: its exclamation marks stand together in front of what
they negate, which is not an equals sign; and the comparison sign is the first one, with no quotes
before it. -/
def IsPlainCondition (condition : List Char) : Prop :=
  let bare := (Text.trim condition).dropWhile (· == '!')
  (bare = Text.trim condition ∨ bare.head? ≠ some '=') ∧
    (Text.trim bare).head? ≠ some '!' ∧ SignsApart (Text.trim bare)

instance (condition : List Char) : Decidable (IsPlainCondition condition) := by
  unfold IsPlainCondition
  infer_instance

theorem isPrefixOf?_sign (first c : Char) (rest : List Char) :
    [first, '='].isPrefixOf? (c :: rest) =
      if c = first ∧ rest.head? = some '=' then some rest.tail else none := by
  cases rest with
  | nil => by_cases h : first = c <;> simp [List.isPrefixOf?, h]
  | cons d rest =>
      by_cases h : first = c
      · by_cases hd : '=' = d
        · subst h hd
          simp [List.isPrefixOf?]
        · simp [List.isPrefixOf?, h, hd, Ne.symm hd]
      · simp [List.isPrefixOf?, h, Ne.symm h]

/-- A sign is found at once, or behind the first character. -/
theorem splitFirst_sign (first c : Char) (rest : List Char) :
    Text.splitFirst [first, '='] (c :: rest) =
      if c = first ∧ rest.head? = some '=' then some ([], rest.tail)
      else (Text.splitFirst [first, '='] rest).map fun parts => (c :: parts.1, parts.2) := by
  rw [Text.splitFirst, isPrefixOf?_sign]
  by_cases h : c = first ∧ rest.head? = some '='
  · rw [if_pos h, if_pos h]
  · rw [if_neg h, if_neg h]

/-- In a text without a sign there is none at its beginning, and none behind it. -/
theorem splitFirst_sign_eq_none {first c : Char} {rest : List Char}
    (h : Text.splitFirst [first, '='] (c :: rest) = none) :
    ¬ (c = first ∧ rest.head? = some '=') ∧ Text.splitFirst [first, '='] rest = none := by
  rw [splitFirst_sign] at h
  split at h
  · cases h
  · rename_i hsign
    exact ⟨hsign, Option.map_eq_none_iff.mp h⟩

/-- A character with which neither a quote nor a sign begins is passed over. -/
theorem splitFromQuote_cons {c : Char} {rest : List Char} (hquote : isQuote c = false)
    (hsign : ¬ ((c = '=' ∨ c = '!') ∧ rest.head? = some '=')) :
    splitFromQuote none (c :: rest) = (splitFromQuote none rest).map (Comparison.push c) := by
  have hnot : ¬ (c = '\x22' ∨ c = '\x27') := by
    simpa [isQuote] using hquote
  rw [splitFromQuote.eq_def]
  simp only
  rw [if_neg hnot]
  split
  · exact absurd ⟨Or.inl rfl, rfl⟩ hsign
  · exact absurd ⟨Or.inr rfl, rfl⟩ hsign
  · rfl

/-- A text without signs is not a comparison. -/
theorem splitFromQuote_eq_none {s : List Char} (hne : Text.splitFirst ['!', '='] s = none)
    (heq : Text.splitFirst ['=', '='] s = none) (quote : Option Char) :
    splitFromQuote quote s = none := by
  induction s generalizing quote with
  | nil => cases quote <;> rfl
  | cons c rest ih =>
      obtain ⟨hne', hne⟩ := splitFirst_sign_eq_none hne
      obtain ⟨heq', heq⟩ := splitFirst_sign_eq_none heq
      cases quote with
      | some q => rw [splitFromQuote, ih hne heq, Option.map_none]
      | none =>
          by_cases hquote : isQuote c = true
          · have hc : c = '\x22' ∨ c = '\x27' := by simpa [isQuote] using hquote
            rw [splitFromQuote.eq_def]
            simp only
            rw [if_pos hc, ih hne heq, Option.map_none]
          · have hsign : ¬ ((c = '=' ∨ c = '!') ∧ rest.head? = some '=') := by
              rintro ⟨rfl | rfl, hhead⟩
              · exact heq' ⟨rfl, hhead⟩
              · exact hne' ⟨rfl, hhead⟩
            rw [splitFromQuote_cons (by simpa using hquote) hsign, ih hne heq, Option.map_none]

/-- The comparison of a text whose first sign is that of inequality, with no quotes before it. -/
theorem splitComparison_unequal {s left right : List Char}
    (h : Text.splitFirst ['!', '='] s = some (left, right))
    (hquote : left.any isQuote = false) (heq : Text.splitFirst ['=', '='] left = none) :
    splitComparison s = some ⟨left, false, right⟩ := by
  rw [splitComparison]
  induction s generalizing left with
  | nil => cases h
  | cons c rest ih =>
      rw [splitFirst_sign] at h
      by_cases hsign : c = '!' ∧ rest.head? = some '='
      · rw [if_pos hsign] at h
        cases h
        obtain ⟨rfl, hhead⟩ := hsign
        obtain ⟨right, rfl⟩ := List.head?_eq_some_iff.mp hhead
        rfl
      · rw [if_neg hsign] at h
        obtain ⟨⟨before, after⟩, hparts, hpair⟩ := Option.map_eq_some_iff.mp h
        cases hpair
        rw [List.any_cons, Bool.or_eq_false_iff] at hquote
        obtain ⟨hc, hbefore⟩ := hquote
        obtain ⟨hhead, heq⟩ := splitFirst_sign_eq_none heq
        rw [splitFromQuote_cons hc, ih hparts hbefore heq]
        · rfl
        · -- The sign itself begins with an exclamation mark.
          rintro ⟨rfl | rfl, hrest⟩
          · cases before with
            | nil =>
                rw [Text.splitFirst_eq_some hparts] at hrest
                cases hrest
            | cons d before =>
                refine hhead ⟨rfl, ?_⟩
                rw [Text.splitFirst_eq_some hparts] at hrest
                simpa using hrest
          · exact hsign ⟨rfl, hrest⟩

/-- The comparison of a text with signs of equality only, with no quotes before the first. -/
theorem splitComparison_equal {s left right : List Char}
    (hne : Text.splitFirst ['!', '='] s = none)
    (h : Text.splitFirst ['=', '='] s = some (left, right))
    (hquote : left.any isQuote = false) :
    splitComparison s = some ⟨left, true, right⟩ := by
  rw [splitComparison]
  induction s generalizing left with
  | nil => cases h
  | cons c rest ih =>
      obtain ⟨hne', hne⟩ := splitFirst_sign_eq_none hne
      rw [splitFirst_sign] at h
      by_cases hsign : c = '=' ∧ rest.head? = some '='
      · rw [if_pos hsign] at h
        cases h
        obtain ⟨rfl, hhead⟩ := hsign
        obtain ⟨right, rfl⟩ := List.head?_eq_some_iff.mp hhead
        rfl
      · rw [if_neg hsign] at h
        obtain ⟨⟨before, after⟩, hparts, hpair⟩ := Option.map_eq_some_iff.mp h
        cases hpair
        rw [List.any_cons, Bool.or_eq_false_iff] at hquote
        obtain ⟨hc, hbefore⟩ := hquote
        rw [splitFromQuote_cons hc, ih hne hparts hbefore]
        · rfl
        · rintro ⟨rfl | rfl, hrest⟩
          · exact hsign ⟨rfl, hrest⟩
          · exact hne' ⟨rfl, hrest⟩

/-- Only a text that begins with an exclamation mark is read as a negation. -/
theorem negated?_cons {first : Char} (h : first ≠ '!') (rest : List Char) :
    negated? (first :: rest) = none := by
  rw [negated?.eq_def]
  split
  · rename_i heq
    exact absurd (List.cons.inj heq).1 h
  · rename_i heq
    exact absurd (List.cons.inj heq).1 h
  · rfl

/-- The exclamation mark is taken off, unless an equals sign follows. -/
theorem negated?_mark {first : Char} (h : first ≠ '=') (rest : List Char) :
    negated? ('!' :: first :: rest) = some (first :: rest) := by
  rw [negated?.eq_def]
  split
  · rename_i heq
    exact absurd (List.cons.inj (List.cons.inj heq).2).1 h
  · rename_i heq
    rw [(List.cons.inj heq).2]
  · rename_i hno
    exact absurd rfl (hno _)

/-- The exclamation marks that stand together in front of a text are taken off one by one. -/
theorem affirmed_replicate (n : Nat) {bare : List Char}
    (hend : ∀ c ∈ bare.getLast?, Text.isBlank c = false) (hsign : n ≠ 0 → bare.head? ≠ some '=')
    (hmark : (Text.trim bare).head? ≠ some '!') :
    affirmed (List.replicate n '!' ++ bare) = Text.trim bare := by
  induction n with
  | zero =>
      refine affirmed_of_negated?_eq_none ?_
      rw [List.replicate_zero, List.nil_append]
      cases htrim : Text.trim bare with
      | nil => rfl
      | cons c rest =>
          rw [htrim] at hmark
          exact negated?_cons (by simpa using hmark) rest
  | succ n ih =>
      have hsign' : bare.head? ≠ some '=' := hsign (Nat.succ_ne_zero n)
      have htrim : Text.trim (List.replicate (n + 1) '!' ++ bare) =
          '!' :: (List.replicate n '!' ++ bare) := by
        rw [(Text.trim_eq_self_iff _).mpr ⟨?_, ?_⟩, List.replicate_succ, List.cons_append]
        · intro c hc
          rw [List.replicate_succ, List.cons_append, List.head?_cons, Option.mem_some_iff] at hc
          rw [← hc]
          decide
        · intro c hc
          cases hbare : bare with
          | nil =>
              rw [hbare, List.append_nil] at hc
              have hmem := List.mem_of_getLast? hc
              rw [List.eq_of_mem_replicate hmem]
              decide
          | cons d rest =>
              rw [hbare, List.getLast?_append_of_ne_nil _ (List.cons_ne_nil d rest)] at hc
              exact hend c (by rw [hbare]; exact hc)
      have hnegated : negated? (Text.trim (List.replicate (n + 1) '!' ++ bare)) =
          some (List.replicate n '!' ++ bare) := by
        rw [htrim]
        cases n with
        | zero =>
            rw [List.replicate_zero, List.nil_append]
            cases hbare : bare with
            | nil => rfl
            | cons d rest =>
                exact negated?_mark (by simpa [hbare] using hsign') rest
        | succ n => rfl
      rw [affirmed_of_negated? hnegated]
      exact ih fun _ => hsign'

/-- **A plain condition is read alike** by the collection of names and by evaluation. -/
theorem conditionSides_eq {condition : List Char} (h : IsPlainCondition condition) :
    conditionSides condition = evaluatedSides condition := by
  obtain ⟨hbare, hmark, happart⟩ := h
  generalize hrest : (Text.trim condition).dropWhile (· == '!') = bare at hbare hmark happart
  have haffirmed : affirmed condition = Text.trim bare := by
    -- What is evaluated is the condition without the blanks around it.
    have htrimmed : affirmed condition = affirmed (Text.trim condition) := by
      cases hnegated : negated? (Text.trim condition) with
      | some rest =>
          rw [affirmed_of_negated? hnegated]
          rw [← Text.trim_trim] at hnegated
          rw [affirmed_of_negated? hnegated]
      | none =>
          rw [affirmed_of_negated?_eq_none hnegated]
          rw [← Text.trim_trim] at hnegated
          rw [affirmed_of_negated?_eq_none hnegated, Text.trim_trim]
    obtain ⟨n, hmarks⟩ : ∃ n, (Text.trim condition).takeWhile (· == '!') =
        List.replicate n '!' := by
      refine ⟨_, List.eq_replicate_iff.mpr ⟨rfl, fun c hc => ?_⟩⟩
      simpa using List.all_eq_true.mp List.all_takeWhile c hc
    have hwhole : Text.trim condition = List.replicate n '!' ++ bare := by
      rw [← hmarks, ← hrest, List.takeWhile_append_dropWhile]
    rw [htrimmed, hwhole]
    refine affirmed_replicate n (fun c hc => ?_) (fun hn => ?_) hmark
    · have hlast := ((Text.trim_eq_self_iff _).mp (Text.trim_trim condition)).2
      cases hcases : bare with
      | nil =>
          rw [hcases] at hc
          cases hc
      | cons d rest =>
          refine hlast c ?_
          rw [hwhole, hcases, List.getLast?_append_of_ne_nil _ (List.cons_ne_nil d rest), ← hcases]
          exact hc
    · rcases hbare with hsame | hne
      · rw [hwhole] at hsame
        have hlength := congrArg List.length hsame
        rw [List.length_append, List.length_replicate] at hlength
        omega
      · exact hne
  rw [evaluatedSides, haffirmed, conditionSides, hrest, comparedSides]
  rw [SignsApart] at happart
  cases hne : Text.splitFirst ['!', '='] (Text.trim bare) with
  | some parts =>
      rw [hne] at happart
      obtain ⟨hquote, hequal⟩ := happart
      simp only [splitComparison_unequal hne hquote hequal]
  | none =>
      rw [hne] at happart
      cases hequal : Text.splitFirst ['=', '='] (Text.trim bare) with
      | some parts =>
          rw [hequal] at happart
          simp only [splitComparison_equal hne hequal happart]
      | none => simp only [splitComparison, splitFromQuote_eq_none hne hequal]

/-! ### Names -/

/-- The path that is followed in the context: in front of a `length` at the end, that of the
list. -/
def resolvedPath (path : List Char) : List Char :=
  match Text.splitLast '.' (Text.trim path) with
  | some (parent, last) => if last = lengthName then Text.trim parent else Text.trim path
  | none => Text.trim path

/-- The name with which a path begins, unless it is loop metadata. -/
def firstName? (path : List Char) : Option String :=
  if path.head? = some '@' then none else some (String.ofList (Text.firstSegment '.' path))

/-- A path begins with a name, without blanks around it. -/
def IsRooted (path : List Char) : Prop :=
  Text.firstSegment '.' path ≠ [] ∧
    Text.trim (Text.firstSegment '.' path) = Text.firstSegment '.' path

instance (path : List Char) : Decidable (IsRooted path) := by
  unfold IsRooted
  infer_instance

theorem splitLast_eq_some {sep : Char} {s parent last : List Char}
    (h : Text.splitLast sep s = some (parent, last)) : s = parent ++ sep :: last := by
  rw [Text.splitLast] at h
  split at h
  · cases h
  · rename_i c before hdrop
    cases h
    have hc : c = sep := by
      have hhead := List.head?_dropWhile_not (· != sep) s.reverse
      rw [hdrop] at hhead
      simpa using hhead
    have hwhole := List.takeWhile_append_dropWhile (p := (· != sep)) (l := s.reverse)
    rw [hdrop] at hwhole
    have hreverse := congrArg List.reverse hwhole
    rw [List.reverse_reverse] at hreverse
    refine hreverse.symm.trans ?_
    rw [Text.lastSegment, hc]
    simp

theorem IsRooted.firstSegment_trim {path : List Char} (h : IsRooted path) :
    Text.firstSegment '.' (Text.trim path) = Text.firstSegment '.' path := by
  obtain ⟨hne, htrim⟩ := h
  obtain ⟨hhead, hlast⟩ := (Text.trim_eq_self_iff _).mp htrim
  -- The path begins with its name, and so without a blank.
  have hstart : Text.trimStart path = path := by
    refine (Text.dropWhile_eq_self_iff _ _).mpr fun c hc => hhead c ?_
    obtain ⟨rest, rfl⟩ := List.head?_eq_some_iff.mp (Option.mem_def.mp hc)
    have hdot : c ≠ '.' := by
      rintro rfl
      exact hne (Text.firstSegment_cons_self '.' rest)
    rw [Text.firstSegment_cons_of_ne hdot]
    rfl
  obtain ⟨blanks, hblanks, hall⟩ := Text.exists_eq_dropEndWhile_append Text.isBlank path
  have hkept : path = Text.trim path ++ blanks := by
    rw [Text.trim, hstart]
    exact hblanks
  by_cases hdot : '.' ∈ Text.trim path
  · obtain ⟨before, after, hparts⟩ := List.append_of_mem hdot
    have hpath : path = before ++ '.' :: (after ++ blanks) := by
      rw [hparts, List.append_assoc, List.cons_append] at hkept
      exact hkept
    have hname : Text.firstSegment '.' path = Text.firstSegment '.' before := by
      rw [hpath]
      exact Text.firstSegment_append_cons '.' before (after ++ blanks)
    rw [hname, hparts]
    exact Text.firstSegment_append_cons '.' before after
  · -- Without a dot the path is its name, which has no blanks to be taken off.
    have hwhole : Text.firstSegment '.' path = path := by
      refine Text.firstSegment_of_not_mem fun hc => ?_
      rw [hkept] at hc
      rcases List.mem_append.mp hc with hmem | hmem
      · exact hdot hmem
      · exact absurd (hall _ hmem) (by decide)
    rw [hwhole] at htrim
    rw [htrim]

theorem IsRooted.firstSegment_resolvedPath {path : List Char} (h : IsRooted path) :
    Text.firstSegment '.' (resolvedPath path) = Text.firstSegment '.' path := by
  have htrim := h.firstSegment_trim
  rw [resolvedPath]
  split
  · rename_i parent last hsplit
    split
    · -- The name of the list is that of the whole path.
      rw [splitLast_eq_some hsplit, Text.firstSegment_append_cons] at htrim
      have hparent : IsRooted parent := by
        rw [IsRooted, htrim]
        exact h
      rw [hparent.firstSegment_trim, htrim]
    · exact htrim
  · exact htrim

theorem head?_of_firstSegment_ne_nil {path : List Char} (h : Text.firstSegment '.' path ≠ []) :
    path.head? = (Text.firstSegment '.' path).head? := by
  cases path with
  | nil => rfl
  | cons c rest =>
      have hc : c ≠ '.' := by
        rintro rfl
        exact h (Text.firstSegment_cons_self '.' rest)
      rw [Text.firstSegment_cons_of_ne hc]
      rfl

/-- The name that is collected from a path is that of any path with the same first segment. -/
theorem IsRooted.rootName?_eq {path other : List Char} (h : IsRooted path)
    (hsame : Text.firstSegment '.' other = Text.firstSegment '.' path) :
    rootName? path = firstName? other := by
  have hother : Text.firstSegment '.' other ≠ [] := by
    rw [hsame]
    exact h.1
  have hhead : other.head? = path.head? := by
    rw [head?_of_firstSegment_ne_nil hother, head?_of_firstSegment_ne_nil h.1, hsame]
  rw [rootName?, firstName?, hhead, hsame, h.2]
  split
  · rfl
  · split
    · rename_i hnil
      exact absurd hnil h.1
    · rfl

theorem isRooted_of_isPath {path : List Char} (h : IsPath path) : IsRooted path := by
  obtain ⟨c, rest, hcons⟩ := List.exists_cons_of_ne_nil h.ne_nil
  have hc : c ≠ '.' := by
    rintro rfl
    obtain ⟨first, more, heq, hstart, -⟩ | ⟨name, heq, -⟩ := h
    · rw [hcons] at heq
      rw [← (List.cons.inj heq).1] at hstart
      exact absurd hstart (by decide)
    · rw [hcons] at heq
      exact absurd (List.cons.inj heq).1 (by decide)
  constructor
  · rw [hcons, Text.firstSegment_cons_of_ne hc]
    exact List.cons_ne_nil _ _
  · have hblank : ∀ d ∈ Text.firstSegment '.' path, Text.isBlank d = false := fun d hd =>
      h.isBlank_eq_false (List.Sublist.mem hd (List.takeWhile_sublist _))
    exact (Text.trim_eq_self_iff _).mpr
      ⟨fun d hd => hblank d (List.mem_of_mem_head? hd),
        fun d hd => hblank d (List.mem_of_mem_getLast? hd)⟩

/-! ### Names of mentions -/

namespace Mention

/-- The names that are collected from a mention. -/
def names (m : Mention) : List String := m.paths.filterMap rootName?

/-- The paths that are followed in the context for a mention. -/
def lookedUp : Mention → List (List Char)
  | value path => [resolvedPath path]
  | items path => [Text.trim path]
  | condition text => (evaluatedPaths text).map resolvedPath

/-- The names that are looked up for a mention. -/
def lookedUpNames (m : Mention) : List String := m.lookedUp.filterMap firstName?

/-- A mention is read alike: the names that are collected are those that are looked up. -/
def Agrees (m : Mention) : Prop := m.names.eraseDups = m.lookedUpNames.eraseDups

/-- A mention is written in a plain way: its paths begin with names, and so does, if it is a
condition, what it negates or compares. -/
def IsPlain : Mention → Prop
  | value path => IsRooted path
  | items path => IsRooted path
  | condition text => IsPlainCondition text ∧ ∀ path ∈ conditionPaths text, IsRooted path

instance (m : Mention) : Decidable m.IsPlain := by
  cases m <;> unfold IsPlain <;> infer_instance

/-- **A mention that is written in a plain way is read alike.** -/
theorem agrees_of_isPlain {m : Mention} (h : m.IsPlain) : m.Agrees := by
  refine congrArg List.eraseDups ?_
  cases m with
  | value path =>
      simp only [names, paths, lookedUpNames, lookedUp, List.filterMap_cons, List.filterMap_nil,
        h.rootName?_eq h.firstSegment_resolvedPath]
  | items path =>
      simp only [names, paths, lookedUpNames, lookedUp, List.filterMap_cons, List.filterMap_nil,
        h.rootName?_eq h.firstSegment_trim]
  | condition text =>
      obtain ⟨hplain, hrooted⟩ := h
      have hpaths : evaluatedPaths text = conditionPaths text := by
        rw [evaluatedPaths, conditionPaths, conditionSides_eq hplain]
      rw [names, paths, lookedUpNames, lookedUp, hpaths, List.filterMap_map]
      refine List.filterMap_congr fun path hpath => ?_
      exact (hrooted path hpath).rootName?_eq (hrooted path hpath).firstSegment_resolvedPath

end Mention

/-- The variables of a proper passage are written in a plain way. -/
theorem isPlain_of_isValue {p : Passage} (hp : p.Proper) {m : Mention} (hm : m ∈ p.mentions)
    (hvalue : m.isValue = true) : m.IsPlain := by
  induction p with
  | nil => cases hm
  | plain c rest ih => exact ih hp.2 hm
  | value path rest ih =>
      rcases List.mem_cons.mp hm with rfl | hrest
      · exact isRooted_of_isPath hp.1
      · exact ih hp.2 hrest
  | block kind content body rest ihbody ihrest =>
      cases kind with
      | conditional =>
          rw [Passage.mentions, List.mem_cons, List.mem_append] at hm
          rcases hm with rfl | hbody | hrest
          · cases hvalue
          · exact ihbody hp.2.1 hbody
          · exact ihrest hp.2.2 hrest
      | loop =>
          rcases List.mem_cons.mp hm with rfl | hrest
          · cases hvalue
          · exact ihrest hp.2.2 hrest

/-! ### Names of templates -/

/-- The names that a text needs are collected from what its passage mentions. -/
theorem neededNames_source {p : Passage} (hp : p.Legible) :
    neededNames p.source = (p.mentions.flatMap Mention.names).eraseDups := by
  rw [neededNames, neededPaths_source hp, List.filterMap_flatMap]
  rfl

/-- Mentions that are read alike, each for itself, are read alike together. -/
theorem eraseDups_names {ms : List Mention} (h : ∀ m ∈ ms, m.Agrees) :
    (ms.flatMap Mention.names).eraseDups = (ms.flatMap Mention.lookedUpNames).eraseDups := by
  induction ms with
  | nil => rfl
  | cons m ms ih =>
      rw [List.flatMap_cons, List.flatMap_cons]
      exact eraseDups_append_congr (h m List.mem_cons_self)
        (ih fun other hother => h other (List.mem_cons_of_mem m hother))

/-- For a template with a single condition, reading it alike is necessary too. -/
theorem neededNames_conditional_iff {content : List Char} (h : IsContent content) :
    neededNames (openingSource .conditional content ++ closingSource .conditional) =
        (Mention.condition (Text.trim content)).lookedUpNames.eraseDups ↔
      (Mention.condition (Text.trim content)).Agrees := by
  have hproper : (Passage.block .conditional content .nil .nil).Proper := ⟨h, trivial, trivial⟩
  have hnames := neededNames_source (legible_of_proper hproper)
  simp only [Passage.source, Passage.mentions, List.append_nil, List.nil_append,
    List.flatMap_singleton] at hnames
  rw [hnames]
  rfl

/-- **The names that a template needs** are collected from what it mentions outside of loop bodies.
They are those that are looked up there, each once and in the order of its first use, if each
mention is read alike, as variables and mentions written in a plain way are; and then the names that
are reported missing are those of them that the context does not have. -/
theorem neededNames_of_agrees {text : List Char} (h : WellFormed text) :
    ∃ p, Passage.parse? text = some p ∧ p.source = text ∧
      neededNames text = (p.mentions.flatMap Mention.names).eraseDups ∧
      (∀ m ∈ p.mentions, m.isValue = true ∨ m.IsPlain → m.Agrees) ∧
      ((∀ m ∈ p.mentions, m.Agrees) →
        neededNames text = (p.mentions.flatMap Mention.lookedUpNames).eraseDups ∧
        (neededNames text).Nodup ∧
        ∀ context name, name ∈ missingNames text context ↔
          name ∈ p.mentions.flatMap Mention.lookedUpNames ∧ context.get? name = none) := by
  obtain ⟨p, hparse, rfl, hproper⟩ := h.exists_tree
  have hnames := neededNames_source (legible_of_proper hproper)
  refine ⟨p, hparse, rfl, hnames, fun m hm hplain => ?_, fun hagrees => ?_⟩
  · rcases hplain with hvalue | hplain
    · exact Mention.agrees_of_isPlain (isPlain_of_isValue hproper hm hvalue)
    · exact Mention.agrees_of_isPlain hplain
  · have hlooked : neededNames p.source =
        (p.mentions.flatMap Mention.lookedUpNames).eraseDups := by
      rw [hnames, eraseDups_names hagrees]
    refine ⟨hlooked, ?_, fun context name => ?_⟩
    · rw [hlooked]
      exact nodup_eraseDups _
    · rw [missingNames, List.mem_filter, hlooked, List.mem_eraseDups, Option.isNone_iff_eq_none]

/-- A summary of the rules for a file. -/
def summary : String :=
  Text.braced "#if !file_path" ++ Text.braced "category" ++ Text.braced "/if" ++
    Text.braced "#if severity == 'ERROR'" ++ "!" ++ Text.braced "/if" ++
    Text.braced "#each rules" ++ Text.braced "id" ++ Text.braced "/each" ++
    Text.braced "c_standard.version" ++ Text.braced "category"

/-- The mentions of the summary are read alike, and its names are those that are looked up. -/
theorem neededNames_summary :
    WellFormed summary.toList ∧ ∃ p, Passage.parse? summary.toList = some p ∧
      (∀ m ∈ p.mentions, m.Agrees) ∧
      neededNames summary.toList = (p.mentions.flatMap Mention.lookedUpNames).eraseDups ∧
      neededNames summary.toList = ["file_path", "category", "severity", "rules", "c_standard"] := by
  have hformed : WellFormed summary.toList := ⟨by decide +kernel, by decide +kernel⟩
  have hplain : ∀ found ∈ Passage.parse? summary.toList, ∀ m ∈ found.mentions,
      m.isValue = true ∨ m.IsPlain := by decide +kernel
  have hlisted : ∀ found ∈ Passage.parse? summary.toList,
      (found.mentions.flatMap Mention.names).eraseDups =
        ["file_path", "category", "severity", "rules", "c_standard"] := by decide +kernel
  obtain ⟨p, hparse, -, hnames, hread, hlooked⟩ := neededNames_of_agrees hformed
  have hagrees : ∀ m ∈ p.mentions, m.Agrees := fun m hm => hread m hm (hplain p hparse m hm)
  refine ⟨hformed, p, hparse, hagrees, (hlooked hagrees).1, ?_⟩
  rw [hnames]
  exact hlisted p hparse

/-- A template whose only condition compares with a text that holds a comparison sign. -/
def quotedSign : String := 
  Text.braced "#if guard == 'a!=b'" ++ "yes" ++ Text.braced "/if"

/-- **Not every condition is read alike.**  The sign within quotes takes the condition apart when
its names are collected, and not when it is evaluated.  So names are reported as missing that are
never looked up, in a context that has the one that is. -/
theorem not_always_looked_up :
    WellFormed quotedSign.toList ∧
      (∃ p, Passage.parse? quotedSign.toList = some p ∧
        p.mentions.flatMap Mention.lookedUpNames = ["guard"]) ∧
      neededNames quotedSign.toList = ["guard == 'a", "b'"] ∧
      missingNames quotedSign.toList (.object [("guard", .string "a!=b")]) =
        ["guard == 'a", "b'"] := by
  have hformed : WellFormed quotedSign.toList := ⟨by decide +kernel, by decide +kernel⟩
  obtain ⟨p, hparse, hsource, hproper⟩ := hformed.exists_tree
  have hmentions : ∀ found ∈ Passage.parse? quotedSign.toList,
      found.mentions = [.condition "guard == 'a!=b'".toList] := by decide +kernel
  have haffirmed : affirmed "guard == 'a!=b'".toList = "guard == 'a!=b'".toList :=
    affirmed_of_negated?_eq_none (by decide +kernel)
  have hlooked : (Mention.condition "guard == 'a!=b'".toList).lookedUpNames = ["guard"] := by
    rw [Mention.lookedUpNames, Mention.lookedUp, evaluatedPaths, evaluatedSides, haffirmed]
    decide +kernel
  have hnames : neededNames quotedSign.toList = ["guard == 'a", "b'"] := by
    rw [← hsource, neededNames_source (legible_of_proper hproper), hmentions p hparse]
    decide +kernel
  refine ⟨hformed, ⟨p, hparse, ?_⟩, hnames, ?_⟩
  · rw [hmentions p hparse, List.flatMap_singleton, hlooked]
  · rw [missingNames, hnames]
    decide +kernel

end Template

end Rulebook
