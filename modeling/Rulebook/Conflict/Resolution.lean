/-
**Settling conflicts.**

Of two rules in conflict the one prevails that the configuration leaves in force, if it puts the
other out of force; otherwise the one for some categories against the one for all; otherwise the
more severe one.  If none of this tells them apart, the conflict is left to the user.

Main definitions:

* `Rulebook.Side`, `Rulebook.Conflict.Ground` — the rule that prevails and why;
* `Rulebook.Conflict.ruling?` — the side and the ground, if there are any;
* `Rulebook.Resolution`, `Rulebook.Conflict.resolve` — the outcome in words.
-/

import Rulebook.Conflict.Basic
import Rulebook.Override.Derived

set_option autoImplicit false

namespace Rulebook

/-- One of the two rules of a conflict. -/
inductive Side where
  /-- The rule that comes first. -/
  | first
  /-- The rule that comes second. -/
  | second
  deriving DecidableEq, Repr

/-- What becomes of the two rules of a conflict. -/
inductive Outcome where
  /-- The first one is used. -/
  | useFirst
  /-- The second one is used. -/
  | useSecond
  /-- They are joined. -/
  | merge
  /-- The user decides. -/
  | undecided
  deriving DecidableEq, Repr

namespace Outcome

/-- The outcomes. -/
def all : List Outcome := [.useFirst, .useSecond, .merge, .undecided]

/-- The name of an outcome. -/
def name : Outcome → String
  | .useFirst => "use_rule1"
  | .useSecond => "use_rule2"
  | .merge => "merge"
  | .undecided => "user_decision"

/-- The outcome in which a side is used. -/
def use : Side → Outcome
  | .first => .useFirst
  | .second => .useSecond

end Outcome

/-- The outcome of a conflict, with its reason. -/
structure Resolution where
  /-- The outcome. -/
  outcome : Outcome
  /-- Why it is so. -/
  rationale : String
  /-- The id of the rule that is used, if one is. -/
  appliedRule : Option String
  deriving DecidableEq, Repr

/-- Whether a conflict is settled. -/
def Resolution.isResolved (r : Resolution) : Bool := r.outcome != .undecided

namespace Conflict

/-- Why a rule prevails. -/
inductive Ground where
  /-- The other rule is out of force. -/
  | disablement
  /-- The rule is for some categories, the other one for all. -/
  | specificity
  /-- The rule is more severe. -/
  | severity
  deriving DecidableEq, Repr

/-- The side that alone has a property. -/
def onlySide? (first second : Bool) : Option Side :=
  match first, second with
  | true, false => some .first
  | false, true => some .second
  | _, _ => none

/-- The side of the rule that alone is in force. -/
def enabledSide? (config : Configuration) (categories : List Category) (a b : Rule) :
    Option Side :=
  onlySide? (config.isRuleEnabled a.id categories) (config.isRuleEnabled b.id categories)

/-- The side of the rule that alone is for some categories. -/
def specificSide? (a b : Rule) : Option Side := onlySide? (!a.isUniversal) (!b.isUniversal)

/-- The side of the more severe rule. -/
def severeSide? (a b : Rule) : Option Side :=
  onlySide? (b.severity.rank < a.severity.rank) (a.severity.rank < b.severity.rank)

/-- The side that prevails and why, if there is one. -/
def ruling? (config : Configuration) (categories : List Category) (a b : Rule) :
    Option (Side × Ground) :=
  ((enabledSide? config categories a b).map (·, .disablement)).or <|
    ((specificSide? a b).map (·, .specificity)).or <|
      (severeSide? a b).map (·, .severity)

/-- The ground in words. -/
def Ground.rationale (ground : Ground) (winner loser : Rule) : String :=
  match ground with
  | .disablement => code loser.id ++ " is disabled in configuration"
  | .specificity => code winner.id ++ " is category-specific"
  | .severity => winner.severity.name ++ " outranks " ++ loser.severity.name

/-- A ruling in words. -/
def resolutionOf (a b : Rule) : Option (Side × Ground) → Resolution
  | some (side, ground) =>
    let winner := match side with | .first => a | .second => b
    let loser := match side with | .first => b | .second => a
    ⟨.use side, ground.rationale winner loser, some winner.id⟩
  | none => ⟨.undecided, "both rules are equally enabled, scoped, and severe", none⟩

/-- How a conflict is settled. -/
def resolve (config : Configuration) (categories : List Category) (conflict : Conflict) :
    Resolution :=
  resolutionOf conflict.first conflict.second
    (ruling? config categories conflict.first conflict.second)

end Conflict

end Rulebook
