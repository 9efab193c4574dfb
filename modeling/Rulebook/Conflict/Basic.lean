/-
**Conflicts of rules.**

Two rules are in conflict if they cannot both be followed, or if one of them makes the other
pointless.  There are four kinds of conflict, each with a check for it, and the first check that
applies decides.

Main definitions:

* `Rulebook.Conflict`, `Rulebook.Conflict.Kind`, `Rulebook.Conflict.Grade` — conflicts, their kinds
  and how grave they are;
* `Rulebook.Conflict.direct?`, `Rulebook.Conflict.implicit?`, `Rulebook.Conflict.precedence?`,
  `Rulebook.Conflict.scope?` — the checks;
* `Rulebook.Conflict.classify` — the conflict of two rules;
* `Rulebook.Conflict.among` — the conflicts of a list of rules.
-/

import Rulebook.Rule.Keyword
import Rulebook.Text.Page

set_option autoImplicit false

namespace Rulebook

/-! ### Kinds and grades -/

/-- The kinds of conflict. -/
inductive Conflict.Kind where
  /-- One rule allows what the other forbids. -/
  | direct
  /-- The rules are about things that do not go together. -/
  | implicit
  /-- The rules are about one topic and differ in severity. -/
  | precedence
  /-- A universal rule is about the same things as a rule of a category. -/
  | scope
  deriving DecidableEq, Repr

namespace Conflict.Kind

/-- The kinds, in order. -/
def all : List Kind := [.direct, .implicit, .precedence, .scope]

/-- The name of a kind. -/
def name : Kind → String
  | .direct => "direct"
  | .implicit => "implicit"
  | .precedence => "precedence"
  | .scope => "scope"

/-- The place of a kind in the list. -/
def rank : Kind → Nat
  | .direct => 0
  | .implicit => 1
  | .precedence => 2
  | .scope => 3

theorem rank_injective {a b : Kind} (h : a.rank = b.rank) : a = b := by
  cases a <;> cases b <;> first | rfl | simp [rank] at h

instance : Ord Kind := ⟨compareOn rank⟩

instance : Std.TransOrd Kind := inferInstanceAs (Std.TransCmp (compareOn rank))

instance : Std.LawfulEqOrd Kind where
  eq_of_compare h := rank_injective (Nat.compare_eq_eq.1 h)

end Conflict.Kind

/-- How grave a conflict is. -/
inductive Conflict.Grade where
  /-- Grave. -/
  | high
  /-- In between. -/
  | medium
  /-- Slight. -/
  | low
  deriving DecidableEq, Repr

namespace Conflict.Grade

/-- The grades, gravest first. -/
def all : List Grade := [.high, .medium, .low]

/-- The name of a grade. -/
def name : Grade → String
  | .high => "high"
  | .medium => "medium"
  | .low => "low"

/-- The place of a grade in the list. -/
def rank : Grade → Nat
  | .high => 0
  | .medium => 1
  | .low => 2

theorem rank_injective {a b : Grade} (h : a.rank = b.rank) : a = b := by
  cases a <;> cases b <;> first | rfl | simp [rank] at h

instance : Ord Grade := ⟨compareOn rank⟩

instance : Std.TransOrd Grade := inferInstanceAs (Std.TransCmp (compareOn rank))

instance : Std.LawfulEqOrd Grade where
  eq_of_compare h := rank_injective (Nat.compare_eq_eq.1 h)

end Conflict.Grade

/-- Two rules that are in each other's way. -/
structure Conflict where
  /-- The kind. -/
  kind : Conflict.Kind
  /-- How grave it is. -/
  grade : Conflict.Grade
  /-- The rule that comes first. -/
  first : Rule
  /-- The rule that comes second. -/
  second : Rule
  /-- What the conflict is. -/
  description : String
  /-- Why it is one. -/
  reason : String
  /-- What may be done about it. -/
  suggestion : String
  deriving DecidableEq, Repr

/-! ### Checks -/

namespace Rule

/-- Whether two rules apply to the same projects: they share a category, or one is universal. -/
def overlaps (a b : Rule) : Bool :=
  a.isUniversal || b.isUniversal || a.category.any b.hasCategory

/-- Whether the id of a rule speaks of memory. -/
def concernsMemory (rule : Rule) : Bool := Text.contains "memory".toList rule.id.toList

/-- Whether a word, in lower case, occurs in the description of a rule. -/
def mentions (rule : Rule) (word : String) : Bool :=
  Text.contains word.toList (Text.folded rule.description.toList)

/-- Whether one of two rules allows something and the other forbids something. -/
def opposes (a b : Rule) : Bool :=
  (a.mentions "allow" && b.mentions "forbid") || (a.mentions "forbid" && b.mentions "allow")

end Rule

namespace Conflict

/-- A text as code. -/
def code (s : String) : String := "`" ++ s ++ "`"

/-- Two rules about memory, of which one allows what the other forbids. -/
def direct? (a b : Rule) : Option Conflict :=
  if a.concernsMemory && b.concernsMemory && a.overlaps b && a.opposes b then
    some {
      kind := .direct, grade := .high, first := a, second := b
      description := code a.id ++ " and " ++ code b.id ++ " give opposite memory directives"
      reason := "one rule allows what the other forbids"
      suggestion :=
        "Keep the category-specific rule and disable the other for that category." }
  else none

/-- The keywords of two rules that are opposite sides of a pair. -/
def sides? (a b : List Keyword) (pair : Keyword × Keyword) : Option (Keyword × Keyword) :=
  if pair.1 ∈ a ∧ pair.2 ∈ b then some (pair.1, pair.2)
  else if pair.2 ∈ a ∧ pair.1 ∈ b then some (pair.2, pair.1)
  else none

/-- The conflict of two rules that are about the sides of a pair. -/
def ofSides (a b : Rule) (pair sides : Keyword × Keyword) : Conflict where
  kind := .implicit
  grade := .medium
  first := a
  second := b
  description := code a.id ++ " concerns " ++ sides.1.word ++ " while " ++ code b.id ++
    " concerns " ++ sides.2.word
  reason := pair.1.word ++ " and " ++ pair.2.word ++ " requirements are incompatible"
  suggestion := "Decide which requirement takes priority for the shared categories."

/-- Two rules that are about opposite sides of an incompatible pair of keywords. -/
def implicit? (a b : Rule) : Option Conflict :=
  Keyword.incompatible.findSome? fun pair =>
    (sides? a.keywords b.keywords pair).map (ofSides a b pair)

/-- Two rules for the same projects, about the same topic, of different severities. -/
def precedence? (a b : Rule) : Option Conflict :=
  if a.overlaps b && a.severity != b.severity && a.topic == b.topic then
    some {
      kind := .precedence, grade := .low, first := a, second := b
      description := code a.id ++ " (" ++ a.severity.name ++ ") and " ++ code b.id ++ " (" ++
        b.severity.name ++ ") both cover " ++ code (String.ofList a.topic)
      reason := "same topic with different severities"
      suggestion := "Align the severities or disable one of the rules." }
  else none

/-- The keywords that two rules share. -/
def sharedKeywords (a b : Rule) : List Keyword := a.keywords.filter fun k => k ∈ b.keywords

/-- A universal rule and a rule of a category that share more than two keywords. -/
def scope? (a b : Rule) : Option Conflict :=
  if a.isUniversal != b.isUniversal && 2 < (sharedKeywords a b).length then
    let wide := if a.isUniversal then a else b
    let narrow := if a.isUniversal then b else a
    some {
      kind := .scope, grade := .low, first := a, second := b
      description := "universal rule " ++ code wide.id ++ " overlaps category rule " ++
        code narrow.id
      reason := "shared keywords: " ++ Text.commaList ((sharedKeywords a b).map Keyword.word)
      suggestion := "Narrow the universal rule or let the category rule take precedence." }
  else none

/-! ### Conflicts -/

/-- The checks, in the order in which they are tried. -/
def checks : List (Rule → Rule → Option Conflict) := [direct?, implicit?, precedence?, scope?]

/-- The conflict of two rules. -/
def classify (a b : Rule) : Option Conflict := checks.findSome? fun check => check a b

/-- The conflicts of a rule with those that come after it. -/
def withRest (a : Rule) (rest : List Rule) : List Conflict :=
  (rest.filter fun b => a.id != b.id).filterMap (classify a)

/-- The conflicts of a list of rules: every pair is looked at once, in the order of the list. -/
def among : List Rule → List Conflict
  | [] => []
  | a :: rest => withRest a rest ++ among rest

end Conflict

end Rulebook
