/-
**The order of the rules.**

A conflict names one of its rules first because the list that it was found in does.  Nothing that
follows from a conflict depends on that.  Each check asks the same of both rules, or asks it in both
directions, and what a reason says about both rules it says in the order of the vocabulary; so a
pair that is turned round is in the same conflict, and only the description names the rules the
other way.  The steps that settle a conflict compare the two rules, so that the same rule prevails
from the other side.  A permutation of a list turns some of its pairs round and puts them in another
order, and therefore leaves the verdicts on the list what they were.

Main definitions:

* `Rulebook.Side.other`, `Rulebook.Outcome.turned` — the other side, and the outcome of a conflict
  whose rules have changed places;
* `Rulebook.Conflict.Turned` — one conflict is the other one turned round;
* `Rulebook.Conflict.Verdict`, `Rulebook.Conflict.Entry.verdict` — what a conflict and the way it is
  settled come to, apart from the order of the rules.

Main results:

* `Rulebook.Conflict.rel_classify` — a pair that is turned round is in the same conflict;
* `Rulebook.Conflict.resolve_turned` — the same rule prevails, from the other side;
* `Rulebook.Conflict.perm_orderedPairs` — the pairs of a permuted list, seen without their order;
* `Rulebook.Conflict.settle_perm` — **the verdicts on a list do not depend on its order**.
-/

import Rulebook.Proofs.Conflict.Report

set_option autoImplicit false

namespace Rulebook

/-! ### What two rules have in common -/

namespace Rule

theorem any_hasCategory_comm (a b : Rule) :
    a.category.any b.hasCategory = b.category.any a.hasCategory := by
  rw [Bool.eq_iff_iff, List.any_eq_true, List.any_eq_true]
  simp only [hasCategory, List.contains_iff_mem, and_comm]

theorem overlaps_comm (a b : Rule) : a.overlaps b = b.overlaps a := by
  rw [overlaps, overlaps, any_hasCategory_comm, Bool.or_comm a.isUniversal]

theorem opposes_comm (a b : Rule) : a.opposes b = b.opposes a := by
  rw [opposes, opposes, Bool.or_comm, Bool.and_comm (a.mentions "forbid"),
    Bool.and_comm (a.mentions "allow")]

/-- The keywords of a rule stand in the order of the vocabulary. -/
theorem keywords_eq (rule : Rule) :
    rule.keywords = Keyword.all.filter fun k => k ∈ rule.keywords := by
  refine List.filter_congr fun k _ => ?_
  rw [Bool.eq_iff_iff, decide_eq_true_iff, mem_keywords]

end Rule

namespace Conflict

/-- The keywords that two rules share stand in the order of the vocabulary, whichever rule they are
taken from. -/
theorem sharedKeywords_comm (a b : Rule) : sharedKeywords a b = sharedKeywords b a := by
  calc sharedKeywords a b
      = (Keyword.all.filter fun k => k ∈ a.keywords).filter fun k => k ∈ b.keywords := by
        rw [sharedKeywords, ← Rule.keywords_eq]
    _ = (Keyword.all.filter fun k => k ∈ b.keywords).filter fun k => k ∈ a.keywords :=
        List.filter_comm _ _ _
    _ = sharedKeywords b a := by rw [sharedKeywords, ← Rule.keywords_eq]

theorem isSome_sides?_comm (a b : List Keyword) (pair : Keyword × Keyword) :
    (sides? a b pair).isSome = (sides? b a pair).isSome := by
  -- If both rules have both keywords, either way round gives the sides of the pair as they stand.
  rw [sides?, sides?]
  by_cases h₁ : pair.1 ∈ a ∧ pair.2 ∈ b <;> by_cases h₂ : pair.2 ∈ a ∧ pair.1 ∈ b <;>
    simp [h₁, h₂, and_comm]

/-! ### The conflict of a pair that is turned round -/

/-- One conflict is the other one turned round: the rules have changed places, and everything but
the description, which names them in their order, is the same. -/
structure Turned (c d : Conflict) : Prop where
  first_eq : d.first = c.second
  second_eq : d.second = c.first
  kind_eq : d.kind = c.kind
  grade_eq : d.grade = c.grade
  reason_eq : d.reason = c.reason
  suggestion_eq : d.suggestion = c.suggestion

section

variable {α β : Type}

/-- Two checks with the same condition find what they find together. -/
theorem rel_ite {r : α → β → Prop} {p q : Bool} (hcond : p = q) {x : α} {y : β} (h : r x y) :
    Option.Rel r (if p then some x else none) (if q then some y else none) := by
  subst hcond
  cases p with
  | false => exact .none
  | true => exact .some h

/-- Two searches that go together at every place find what they find together. -/
theorem rel_findSome? {γ : Type} {r : α → β → Prop} {f : γ → Option α} {g : γ → Option β}
    {l : List γ} (h : ∀ x ∈ l, Option.Rel r (f x) (g x)) :
    Option.Rel r (l.findSome? f) (l.findSome? g) := by
  induction l with
  | nil => exact .none
  | cons x rest ih =>
      obtain ⟨hx, hrest⟩ := List.forall_mem_cons.mp h
      rw [List.findSome?_cons, List.findSome?_cons]
      generalize f x = found at hx ⊢
      generalize g x = other at hx ⊢
      cases hx with
      | some hxy => exact .some hxy
      | none => exact ih hrest

end

theorem rel_direct? (a b : Rule) : Option.Rel Turned (direct? a b) (direct? b a) := by
  have hcond : (a.concernsMemory && b.concernsMemory && a.overlaps b && a.opposes b) =
      (b.concernsMemory && a.concernsMemory && b.overlaps a && b.opposes a) := by
    rw [Bool.and_comm a.concernsMemory, Rule.overlaps_comm, Rule.opposes_comm]
  exact rel_ite hcond ⟨rfl, rfl, rfl, rfl, rfl, rfl⟩

theorem rel_implicit? (a b : Rule) : Option.Rel Turned (implicit? a b) (implicit? b a) := by
  refine rel_findSome? fun pair _ => ?_
  have hsome := isSome_sides?_comm a.keywords b.keywords pair
  cases hab : sides? a.keywords b.keywords pair with
  | none =>
      rw [hab, Option.isSome_none, eq_comm, Option.isSome_eq_false_iff, Option.isNone_iff_eq_none]
        at hsome
      rw [hsome]
      exact .none
  | some sides =>
      rw [hab, Option.isSome_some, eq_comm, Option.isSome_iff_exists] at hsome
      obtain ⟨others, hba⟩ := hsome
      rw [hba]
      -- The reason names the pair as it stands in the list of pairs, whoever has which side.
      exact .some ⟨rfl, rfl, rfl, rfl, rfl, rfl⟩

theorem rel_precedence? (a b : Rule) : Option.Rel Turned (precedence? a b) (precedence? b a) := by
  have hcond : (a.overlaps b && a.severity != b.severity && a.topic == b.topic) =
      (b.overlaps a && b.severity != a.severity && b.topic == a.topic) := by
    rw [Rule.overlaps_comm, bne_comm, BEq.comm (a := a.topic)]
  exact rel_ite hcond ⟨rfl, rfl, rfl, rfl, rfl, rfl⟩

theorem rel_scope? (a b : Rule) : Option.Rel Turned (scope? a b) (scope? b a) := by
  have hcond : (a.isUniversal != b.isUniversal && decide (2 < (sharedKeywords a b).length)) =
      (b.isUniversal != a.isUniversal && decide (2 < (sharedKeywords b a).length)) := by
    rw [bne_comm, sharedKeywords_comm]
  have hreason : "shared keywords: " ++ Text.commaList ((sharedKeywords b a).map Keyword.word) =
      "shared keywords: " ++ Text.commaList ((sharedKeywords a b).map Keyword.word) := by
    rw [sharedKeywords_comm]
  exact rel_ite hcond ⟨rfl, rfl, rfl, rfl, hreason, rfl⟩

/-- **A pair that is turned round is in the same conflict**, and in none if it was in none. -/
theorem rel_classify (a b : Rule) : Option.Rel Turned (classify a b) (classify b a) := by
  refine rel_findSome? fun check hcheck => ?_
  simp only [checks, List.mem_cons, List.not_mem_nil, or_false] at hcheck
  rcases hcheck with rfl | rfl | rfl | rfl
  · exact rel_direct? a b
  · exact rel_implicit? a b
  · exact rel_precedence? a b
  · exact rel_scope? a b

end Conflict

/-! ### The rule that prevails -/

/-- The other side. -/
def Side.other : Side → Side
  | .first => .second
  | .second => .first

/-- The outcome of a conflict whose rules have changed places. -/
def Outcome.turned : Outcome → Outcome
  | .useFirst => .useSecond
  | .useSecond => .useFirst
  | .merge => .merge
  | .undecided => .undecided

namespace Conflict

theorem onlySide?_comm (x y : Bool) : onlySide? y x = (onlySide? x y).map Side.other := by
  cases x <;> cases y <;> rfl

theorem ruling?_comm (config : Configuration) (categories : List Category) (a b : Rule) :
    ruling? config categories b a =
      (ruling? config categories a b).map (Prod.map Side.other id) := by
  have henabled : enabledSide? config categories b a =
      (enabledSide? config categories a b).map Side.other := onlySide?_comm _ _
  have hspecific : specificSide? b a = (specificSide? a b).map Side.other := onlySide?_comm _ _
  have hsevere : severeSide? b a = (severeSide? a b).map Side.other := onlySide?_comm _ _
  rw [ruling?, ruling?, henabled, hspecific, hsevere, Option.map_or, Option.map_or]
  simp only [Option.map_map, Function.comp_def, Prod.map_apply, id_eq]

/-- **The same rule prevails, from the other side**, on the same ground. -/
theorem resolve_turned (config : Configuration) (categories : List Category) {c d : Conflict}
    (hfirst : d.first = c.second) (hsecond : d.second = c.first) :
    d.resolve config categories =
      { c.resolve config categories with
        outcome := (c.resolve config categories).outcome.turned } := by
  rw [resolve, resolve, hfirst, hsecond, ruling?_comm]
  cases ruling? config categories c.first c.second with
  | none => rfl
  | some ruling =>
      obtain ⟨side, ground⟩ := ruling
      cases side <;> rfl

/-! ### Verdicts -/

/-- What a conflict and the way it is settled come to, apart from the order of the rules. -/
structure Verdict where
  /-- The ids of the two rules. -/
  ids : Sym2 String
  /-- The kind of the conflict. -/
  kind : Kind
  /-- How grave it is. -/
  grade : Grade
  /-- Why it is one. -/
  reason : String
  /-- What may be done about it. -/
  suggestion : String
  /-- Whether it is settled. -/
  isResolved : Bool
  /-- The id of the rule that is used, if one is. -/
  appliedRule : Option String
  deriving DecidableEq

/-- The verdict on a conflict with the way it is settled. -/
def Entry.verdict (entry : Entry) : Verdict where
  ids := s(entry.conflict.first.id, entry.conflict.second.id)
  kind := entry.conflict.kind
  grade := entry.conflict.grade
  reason := entry.conflict.reason
  suggestion := entry.conflict.suggestion
  isResolved := entry.resolution.isResolved
  appliedRule := entry.resolution.appliedRule

theorem isResolved_turned (r : Resolution) :
    { r with outcome := r.outcome.turned }.isResolved = r.isResolved := by
  obtain ⟨outcome, rationale, appliedRule⟩ := r
  cases outcome <;> rfl

section

variable (config : Configuration) (categories : List Category)

/-- The verdict on a conflict that is turned round is the same. -/
theorem verdict_turned {c d : Conflict} (h : Turned c d) :
    (Entry.mk d (d.resolve config categories)).verdict =
      (Entry.mk c (c.resolve config categories)).verdict := by
  have hresolve := resolve_turned config categories h.first_eq h.second_eq
  simp only [Entry.verdict, hresolve, isResolved_turned, h.first_eq, h.second_eq, h.kind_eq,
    h.grade_eq, h.reason_eq, h.suggestion_eq, Sym2.eq_swap]

/-- The verdict on two rules, if their ids differ and they are in conflict. -/
def verdict? (a b : Rule) : Option Verdict :=
  if a.id != b.id then
    (classify a b).map fun c => (Entry.mk c (c.resolve config categories)).verdict
  else none

theorem verdict?_comm (a b : Rule) :
    verdict? config categories a b = verdict? config categories b a := by
  have hclass : (classify a b).map (fun c => (Entry.mk c (c.resolve config categories)).verdict) =
      (classify b a).map fun c => (Entry.mk c (c.resolve config categories)).verdict := by
    have hrel := rel_classify a b
    generalize classify a b = found at hrel ⊢
    generalize classify b a = other at hrel ⊢
    cases hrel with
    | none => rfl
    | some hturned => exact congrArg some (verdict_turned config categories hturned).symm
  rw [verdict?, verdict?, bne_comm, hclass]

/-- The verdicts on a list, pair by pair. -/
theorem map_verdict_settle (rules : List Rule) :
    (settle config categories rules).map Entry.verdict =
      (orderedPairs rules).filterMap fun pair => verdict? config categories pair.1 pair.2 := by
  rw [settle, List.map_map, among_eq, List.map_filterMap, List.filterMap_filter]
  rfl

end

/-- **The pairs of a permuted list**, seen by a function that does not mind their order, are those
of the list. -/
theorem perm_orderedPairs {α β : Type} {f : α → α → Option β} (hcomm : ∀ a b, f a b = f b a)
    {l l' : List α} (h : l.Perm l') :
    ((orderedPairs l).filterMap fun pair => f pair.1 pair.2).Perm
      ((orderedPairs l').filterMap fun pair => f pair.1 pair.2) := by
  -- The pairs of the first element are seen by the function with this element put in.
  have hcons (x : α) (rest : List α) :
      ((orderedPairs (x :: rest)).filterMap fun pair => f pair.1 pair.2) =
        rest.filterMap (f x) ++ (orderedPairs rest).filterMap fun pair => f pair.1 pair.2 := by
    rw [orderedPairs, List.filterMap_append, List.filterMap_map]
    rfl
  induction h with
  | nil => exact List.Perm.refl _
  | cons x hrest ih =>
      rw [hcons, hcons]
      exact (hrest.filterMap (f x)).append ih
  | swap x y rest =>
      -- The pair of the two that are swapped comes first both times, and the pairs of each of them
      -- with the rest change places.
      have hfirst (a b : α) : (b :: rest).filterMap (f a) =
          (f a b).toList ++ rest.filterMap (f a) := by
        rw [List.filterMap_cons]
        cases f a b <;> rfl
      simp only [hcons, hfirst, hcomm y x, List.append_assoc]
      exact (List.perm_append_comm_assoc _ _ _).append_left _
  | trans _ _ ih₁ ih₂ => exact ih₁.trans ih₂

/-- **The verdicts on a list of rules do not depend on its order.**  Turning a pair of rules round
turns their conflict round, and the same rule prevails from the other side. -/
theorem settle_perm (config : Configuration) (categories : List Category) {rules rules' : List Rule}
    (hperm : rules.Perm rules') :
    ((settle config categories rules).map Entry.verdict).Perm
        ((settle config categories rules').map Entry.verdict) ∧
      (∀ a b, Option.Rel Turned (classify a b) (classify b a)) ∧
      ∀ c d : Conflict, d.first = c.second → d.second = c.first →
        d.resolve config categories =
          { c.resolve config categories with
            outcome := (c.resolve config categories).outcome.turned } := by
  refine ⟨?_, rel_classify, fun c d => resolve_turned config categories⟩
  rw [map_verdict_settle, map_verdict_settle]
  exact perm_orderedPairs (verdict?_comm config categories) hperm

/-- Three rules and the same rules from the last to the first.  The one for kernels stands in the
middle and prevails over both others, over the one before it from the second side and over the one
after it from the first; so it does again when these two have changed places. -/
theorem poolRules_reversed :
    poolRules.Perm poolRules.reverse ∧
      ((settle .standard [.kernel] poolRules).map Entry.verdict).Perm
        ((settle .standard [.kernel] poolRules.reverse).map Entry.verdict) ∧
      (settle .standard [.kernel] poolRules).map
          (fun e => (e.resolution.outcome, e.resolution.appliedRule)) =
        [(.useSecond, some "kernel-memory-heap"), (.useFirst, some "kernel-memory-heap")] ∧
      (settle .standard [.kernel] poolRules.reverse).map
          (fun e => (e.resolution.outcome, e.resolution.appliedRule)) =
        [(.useSecond, some "kernel-memory-heap"), (.useFirst, some "kernel-memory-heap")] := by
  have hperm : poolRules.Perm poolRules.reverse := (List.reverse_perm poolRules).symm
  refine ⟨hperm, (settle_perm .standard [.kernel] hperm).1, ?_, ?_⟩
  · decide +kernel
  · decide +kernel

end Conflict

end Rulebook
