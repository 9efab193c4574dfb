/-
**Resolutions rank the rules.**

A conflict is settled by three comparisons, each of which is made only if those before it do not
tell the rules apart: is the rule in force, is it for some categories only, how severe is it.  That
is the lexicographic comparison of one value for each rule, its standing, and the standing of a
rule depends on no other rule.  So whatever the conflicts are and however many, the rule of the
higher standing prevails, rules of the same standing are left to the user, and whoever follows the
resolutions climbs.  There are only finitely many standings, and the climb ends.

Main definitions:

* `Rulebook.Conflict.Answers` — what is answered to the conflicts of two rules, and with it
  `Rulebook.Conflict.Beats` and `Rulebook.Conflict.Undecided`;
* `Rulebook.Conflict.standing` — the standing of a rule;
* `Rulebook.Conflict.GivesWay` — a rule loses against another one in one of several conflicts;
* `Rulebook.Conflict.IsRanking` — what the answers have to do with each other.

Main results:

* `Rulebook.Conflict.largerSide?_toLex` — one comparison after the other is the lexicographic one;
* `Rulebook.Conflict.outcome_resolve` — the rule of the higher standing prevails;
* `Rulebook.Conflict.exists_unsurpassed` — following the resolutions ends;
* `Rulebook.Conflict.answers_rank` — **the answers rank the rules**.
-/

import Mathlib.Data.Fintype.EquivFin
import Mathlib.Data.Fintype.Prod
import Mathlib.Data.Prod.Lex
import Mathlib.Logic.Relation
import Rulebook.Conflict.Resolution

set_option autoImplicit false

namespace Rulebook

/-- The outcome in which a side is used, if there is one. -/
def Outcome.ofSide? : Option Side → Outcome
  | some side => .use side
  | none => .undecided

theorem Outcome.ofSide?_injective : Function.Injective ofSide? := by
  intro s t h
  match s, t with
  | none, none => rfl
  | some .first, some .first => rfl
  | some .second, some .second => rfl

theorem Severity.rank_lt (s : Severity) : s.rank < 4 := by
  cases s <;> decide

namespace Conflict

/-! ### Comparisons -/

/-- The side of the larger of two values, if they differ. -/
def largerSide? {α : Type} [LinearOrder α] (x y : α) : Option Side :=
  if y < x then some .first else if x < y then some .second else none

section

variable {α β : Type} [LinearOrder α] [LinearOrder β]

theorem largerSide?_of_gt {x y : α} (h : y < x) : largerSide? x y = some .first := if_pos h

theorem largerSide?_of_lt {x y : α} (h : x < y) : largerSide? x y = some .second := by
  rw [largerSide?, if_neg h.asymm, if_pos h]

theorem largerSide?_self (x : α) : largerSide? x x = none := by
  rw [largerSide?, if_neg (lt_irrefl x), if_neg (lt_irrefl x)]

theorem largerSide?_eq_first_iff {x y : α} : largerSide? x y = some .first ↔ y < x := by
  rcases lt_trichotomy x y with h | rfl | h
  · simp [largerSide?_of_lt h, h.asymm]
  · simp [largerSide?_self]
  · simp [largerSide?_of_gt h, h]

theorem largerSide?_eq_second_iff {x y : α} : largerSide? x y = some .second ↔ x < y := by
  rcases lt_trichotomy x y with h | rfl | h
  · simp [largerSide?_of_lt h, h]
  · simp [largerSide?_self]
  · simp [largerSide?_of_gt h, h.asymm]

theorem largerSide?_eq_none_iff {x y : α} : largerSide? x y = none ↔ x = y := by
  rcases lt_trichotomy x y with h | rfl | h
  · simp [largerSide?_of_lt h, h.ne]
  · simp [largerSide?_self]
  · simp [largerSide?_of_gt h, h.ne']

/-- **One comparison after the other is the lexicographic one**: the later one counts only where the
earlier one finds no difference. -/
theorem largerSide?_toLex (x y : α × β) :
    largerSide? (toLex x) (toLex y) = (largerSide? x.1 y.1).or (largerSide? x.2 y.2) := by
  rcases lt_trichotomy x.1 y.1 with h | h | h
  · have hlex : toLex x < toLex y := Prod.Lex.toLex_lt_toLex.mpr (Or.inl h)
    rw [largerSide?_of_lt hlex, largerSide?_of_lt h, Option.some_or]
  · rw [h, largerSide?_self, Option.none_or]
    rcases lt_trichotomy x.2 y.2 with h₂ | h₂ | h₂
    · have hlex : toLex x < toLex y := Prod.Lex.toLex_lt_toLex.mpr (Or.inr ⟨h, h₂⟩)
      rw [largerSide?_of_lt hlex, largerSide?_of_lt h₂]
    · rw [Prod.ext h h₂, largerSide?_self, largerSide?_self]
    · have hlex : toLex y < toLex x := Prod.Lex.toLex_lt_toLex.mpr (Or.inr ⟨h.symm, h₂⟩)
      rw [largerSide?_of_gt hlex, largerSide?_of_gt h₂]
  · have hlex : toLex y < toLex x := Prod.Lex.toLex_lt_toLex.mpr (Or.inl h)
    rw [largerSide?_of_gt hlex, largerSide?_of_gt h, Option.some_or]

end

theorem onlySide?_eq (x y : Bool) : onlySide? x y = largerSide? x y := by
  cases x <;> cases y <;> rfl

/-! ### Standings -/

section

variable (config : Configuration) (categories : List Category)

/-- The standing of a rule: first whether the configuration leaves it in force, then whether it is
for some categories only, then how severe it is. -/
def standing (rule : Rule) : Bool ×ₗ Bool ×ₗ Fin 4 :=
  toLex (config.isRuleEnabled rule.id categories,
    toLex (!rule.isUniversal, ⟨rule.severity.rank, rule.severity.rank_lt⟩))

theorem severeSide?_eq (a b : Rule) :
    severeSide? a b =
      largerSide? (⟨a.severity.rank, a.severity.rank_lt⟩ : Fin 4)
        ⟨b.severity.rank, b.severity.rank_lt⟩ := by
  rw [severeSide?]
  cases a.severity <;> cases b.severity <;> rfl

/-- The ruling is for the side of the higher standing. -/
theorem map_fst_ruling? (a b : Rule) :
    (ruling? config categories a b).map Prod.fst =
      largerSide? (standing config categories a) (standing config categories b) := by
  rw [standing, standing, largerSide?_toLex, largerSide?_toLex, ← onlySide?_eq, ← onlySide?_eq,
    ← severeSide?_eq, ruling?, Option.map_or, Option.map_or, Option.map_map, Option.map_map,
    Option.map_map]
  simp only [Function.comp_def, Option.map_id', enabledSide?, specificSide?]

/-- **The rule of the higher standing prevails.** -/
theorem outcome_resolve (c : Conflict) :
    (c.resolve config categories).outcome =
      .ofSide? (largerSide? (standing config categories c.first)
        (standing config categories c.second)) := by
  rw [← map_fst_ruling?, resolve]
  cases ruling? config categories c.first c.second with
  | none => rfl
  | some ruling => rfl

/-! ### Answers -/

/-- What is answered to the conflicts of two rules, of whatever kind. -/
def Answers (a b : Rule) (outcome : Outcome) : Prop :=
  ∀ c : Conflict, c.first = a → c.second = b → (c.resolve config categories).outcome = outcome

/-- The first of two rules prevails. -/
def Beats (a b : Rule) : Prop := Answers config categories a b .useFirst

/-- Neither of two rules prevails. -/
def Undecided (a b : Rule) : Prop := Answers config categories a b .undecided

variable {config categories} {a b : Rule}

/-- What is answered tells the side of the higher standing, and is told by it. -/
theorem answers_ofSide?_iff {side : Option Side} :
    Answers config categories a b (.ofSide? side) ↔
      largerSide? (standing config categories a) (standing config categories b) = side := by
  constructor
  · intro h
    -- The kind and the texts of a conflict do not matter, so any conflict of the two will do.
    have houtcome := h ⟨.scope, .low, a, b, "", "", ""⟩ rfl rfl
    rw [outcome_resolve] at houtcome
    exact Outcome.ofSide?_injective houtcome
  · rintro h c rfl rfl
    rw [outcome_resolve, h]

theorem beats_iff :
    Beats config categories a b ↔ standing config categories b < standing config categories a :=
  answers_ofSide?_iff.trans largerSide?_eq_first_iff

theorem answers_useSecond_iff :
    Answers config categories a b .useSecond ↔
      standing config categories a < standing config categories b :=
  answers_ofSide?_iff.trans largerSide?_eq_second_iff

theorem undecided_iff :
    Undecided config categories a b ↔
      standing config categories a = standing config categories b :=
  answers_ofSide?_iff.trans largerSide?_eq_none_iff

end

theorem equivalence_undecided (config : Configuration) (categories : List Category) :
    Equivalence (Undecided config categories) := by
  -- Undecided rules have one standing, and having the same value is an equivalence.
  have hsame : Undecided config categories = InvImage Eq (standing config categories) := by
    funext a b
    exact propext undecided_iff
  rw [hsame]
  exact InvImage.equivalence _ _ eq_equivalence

/-! ### Following the resolutions -/

section

variable {config : Configuration} {categories : List Category}

/-- A rule loses against another one in one of several conflicts. -/
def GivesWay (config : Configuration) (categories : List Category) (conflicts : Set Conflict)
    (loser winner : Rule) : Prop :=
  ∃ c ∈ conflicts,
    (c.first = winner ∧ c.second = loser ∧ (c.resolve config categories).outcome = .useFirst) ∨
    (c.first = loser ∧ c.second = winner ∧ (c.resolve config categories).outcome = .useSecond)

/-- Whoever loses has the lower standing. -/
theorem GivesWay.standing_lt {conflicts : Set Conflict} {loser winner : Rule}
    (h : GivesWay config categories conflicts loser winner) :
    standing config categories loser < standing config categories winner := by
  obtain ⟨c, -, ⟨rfl, rfl, houtcome⟩ | ⟨rfl, rfl, houtcome⟩⟩ := h
  · rw [outcome_resolve] at houtcome
    exact largerSide?_eq_first_iff.mp (Outcome.ofSide?_injective houtcome)
  · rw [outcome_resolve] at houtcome
    exact largerSide?_eq_second_iff.mp (Outcome.ofSide?_injective houtcome)

/-- **Following the resolutions ends**: from every rule they lead to one that loses nowhere. -/
theorem exists_unsurpassed (conflicts : Set Conflict) (rule : Rule) :
    ∃ top, Relation.ReflTransGen (GivesWay config categories conflicts) rule top ∧
      ∀ winner, ¬ GivesWay config categories conflicts top winner := by
  -- Induction on the standing, from the highest downwards: there are finitely many.
  have hwf : WellFounded (InvImage (· > ·) (standing config categories)) :=
    InvImage.wf _ wellFounded_gt
  induction rule using hwf.induction with
  | _ rule ih =>
      by_cases h : ∃ winner, GivesWay config categories conflicts rule winner
      · obtain ⟨winner, hwinner⟩ := h
        obtain ⟨top, hreach, htop⟩ := ih winner hwinner.standing_lt
        exact ⟨top, hreach.head hwinner, htop⟩
      · exact ⟨rule, .refl, not_exists.mp h⟩

/-- Along a chain of rules each of which beats the next, the standing falls. -/
theorem standing_lt_of_transGen {a b : Rule}
    (h : Relation.TransGen (Beats config categories) a b) :
    standing config categories b < standing config categories a := by
  induction h with
  | single hbeats => exact beats_iff.mp hbeats
  | tail _ hbeats ih => exact (beats_iff.mp hbeats).trans ih

end

/-- What the answers have to do with each other if they come from a ranking of the rules. -/
structure IsRanking (config : Configuration) (categories : List Category) : Prop where
  /-- Of two rules at most one beats the other. -/
  asymm : ∀ a b, Beats config categories a b → ¬ Beats config categories b a
  /-- A rule beats what is beaten by those that it beats. -/
  trans : ∀ a b c, Beats config categories a b → Beats config categories b c →
    Beats config categories a c
  /-- The rule on the second side is used exactly if it beats the one on the first. -/
  beats_iff_useSecond : ∀ a b, Beats config categories b a ↔
    Answers config categories a b .useSecond
  /-- The rules are divided into classes of those that are left to the user. -/
  equivalence : Equivalence (Undecided config categories)
  /-- The rules of a class beat the same rules. -/
  undecided_beats : ∀ a b c, Undecided config categories a b → Beats config categories b c →
    Beats config categories a c
  /-- The rules of a class are beaten by the same rules. -/
  beats_undecided : ∀ a b c, Beats config categories a b → Undecided config categories b c →
    Beats config categories a c
  /-- There is no cycle of rules each of which beats the next. -/
  acyclic : ∀ a, ¬ Relation.TransGen (Beats config categories) a a
  /-- Among any conflicts, following the resolutions from a rule leads to one that loses nowhere. -/
  exists_top : ∀ (conflicts : Set Conflict) (rule : Rule),
    ∃ top, Relation.ReflTransGen (GivesWay config categories conflicts) rule top ∧
      ∀ winner, ¬ GivesWay config categories conflicts top winner

/-- **The answers rank the rules**, whatever the settings and the categories. -/
theorem answers_rank (config : Configuration) (categories : List Category) :
    IsRanking config categories where
  asymm := by
    intro a b hab hba
    rw [beats_iff] at hab hba
    exact hab.asymm hba
  trans := by
    intro a b c hab hbc
    rw [beats_iff] at hab hbc ⊢
    exact hbc.trans hab
  beats_iff_useSecond := by
    intro a b
    rw [beats_iff, answers_useSecond_iff]
  equivalence := equivalence_undecided config categories
  undecided_beats := by
    intro a b c hab hbc
    rw [undecided_iff] at hab
    rw [beats_iff] at hbc ⊢
    rwa [hab]
  beats_undecided := by
    intro a b c hab hbc
    rw [undecided_iff] at hbc
    rw [beats_iff] at hab ⊢
    rwa [← hbc]
  acyclic := by
    intro a h
    exact lt_irrefl _ (standing_lt_of_transGen h)
  exists_top := exists_unsurpassed

/-- A rule that is in force, for one category. -/
def rankedRule (id : String) (category : Category) (severity : Severity) : Rule where
  id := id
  name := id
  description := ""
  rationale := ""
  category := [category]
  severity := severity
  enabled := true
  examples := .none
  standard := none
  source := none

/-- The settings of a project whose kernel category puts one rule out of force. -/
def retiredSettings : Configuration :=
  { Configuration.standard with
    sections := SortedMap.empty.insert .kernel
      { CategorySection.empty with disabledRules := ["kernel-jumps"] } }

/-- A warning for kernels beats an error for all projects, which beats an error for kernels that is
out of force; so the warning beats that one too, and another warning for kernels does what it
does. -/
theorem retiredSettings_answers :
    let locks := rankedRule "kernel-locks" .kernel .warning
    let types := rankedRule "kernel-types" .kernel .warning
    let naming := rankedRule "universal-naming" .universal .error
    let jumps := rankedRule "kernel-jumps" .kernel .error
    Beats retiredSettings [.kernel] locks naming ∧ Beats retiredSettings [.kernel] naming jumps ∧
      Beats retiredSettings [.kernel] locks jumps ∧ ¬ Beats retiredSettings [.kernel] jumps locks ∧
      Undecided retiredSettings [.kernel] types locks ∧
      Beats retiredSettings [.kernel] types naming := by
  intro locks types naming jumps
  have hranking := answers_rank retiredSettings [.kernel]
  have hspecific : Beats retiredSettings [.kernel] locks naming := beats_iff.mpr (by decide +kernel)
  have hdisabled : Beats retiredSettings [.kernel] naming jumps := beats_iff.mpr (by decide +kernel)
  have hsame : Undecided retiredSettings [.kernel] types locks :=
    undecided_iff.mpr (by decide +kernel)
  have hlast := hranking.trans _ _ _ hspecific hdisabled
  exact ⟨hspecific, hdisabled, hlast, hranking.asymm _ _ hlast, hsame,
    hranking.undecided_beats _ _ _ hsame hspecific⟩

end Conflict

end Rulebook
