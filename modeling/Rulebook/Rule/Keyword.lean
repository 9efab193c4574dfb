/-
**Keywords of a rule.**

Two rules may be in each other's way because of what their prose is about.  What it is about is
told by a fixed vocabulary: a keyword belongs to a rule if it occurs in the title, the description
or the rationale, in any case and also inside of a longer word.

Main definitions:

* `Rulebook.Keyword` — the vocabulary;
* `Rulebook.Keyword.incompatible` — the pairs of keywords that cannot both be honoured;
* `Rulebook.Rule.keywords` — the keywords of a rule, in the order of the vocabulary.

Main statements:

* `Rulebook.Rule.mem_keywords` — which keywords a rule has.
-/

import Rulebook.Rule.Basic
import Rulebook.Text.Letters

set_option autoImplicit false

namespace Rulebook

/-- A word that tells what a rule is about. -/
inductive Keyword where
  /-- Behaviour that can be foretold. -/
  | deterministic
  /-- Behaviour that depends on the run. -/
  | dynamic
  /-- Deadlines. -/
  | realtime
  /-- Calls that wait. -/
  | blocking
  /-- Small targets. -/
  | embedded
  /-- Taking memory from the heap. -/
  | malloc
  /-- Giving memory back. -/
  | free
  /-- Memory that changes on its own. -/
  | volatile
  /-- Memory that lives as long as the program. -/
  | static
  /-- Memory that never changes. -/
  | const
  /-- The interface of the operating system. -/
  | posix
  /-- Kernels. -/
  | kernel
  /-- Device drivers. -/
  | driver
  /-- Interrupts. -/
  | interrupt
  /-- Direct memory access. -/
  | dma
  /-- Networks. -/
  | network
  /-- Old code. -/
  | legacy
  deriving DecidableEq, Repr

namespace Keyword

/-- The vocabulary, in order. -/
def all : List Keyword :=
  [.deterministic, .dynamic, .realtime, .blocking, .embedded, .malloc, .free, .volatile, .static,
    .const, .posix, .kernel, .driver, .interrupt, .dma, .network, .legacy]

/-- The word. -/
def word : Keyword → String
  | .deterministic => "deterministic"
  | .dynamic => "dynamic"
  | .realtime => "realtime"
  | .blocking => "blocking"
  | .embedded => "embedded"
  | .malloc => "malloc"
  | .free => "free"
  | .volatile => "volatile"
  | .static => "static"
  | .const => "const"
  | .posix => "posix"
  | .kernel => "kernel"
  | .driver => "driver"
  | .interrupt => "interrupt"
  | .dma => "dma"
  | .network => "network"
  | .legacy => "legacy"

/-- The pairs of keywords that cannot both be honoured. -/
def incompatible : List (Keyword × Keyword) :=
  [(.deterministic, .dynamic), (.realtime, .blocking), (.embedded, .malloc)]

theorem mem_all (k : Keyword) : k ∈ all := by cases k <;> decide

end Keyword

namespace Rule

/-- The prose of a rule: its title, description and rationale. -/
def prose (rule : Rule) : List Char :=
  rule.name.toList ++ ' ' :: rule.description.toList ++ ' ' :: rule.rationale.toList

/-- The keywords of a text in lower case. -/
def keywordsOf (text : List Char) : List Keyword :=
  Keyword.all.filter fun k => Text.contains k.word.toList text

/-- The keywords of a rule, in the order of the vocabulary. -/
def keywords (rule : Rule) : List Keyword := keywordsOf (Text.folded rule.prose)

/-- The keywords of a rule are those that occur in its prose. -/
theorem mem_keywords (rule : Rule) (k : Keyword) :
    k ∈ rule.keywords ↔ Text.contains k.word.toList (Text.folded rule.prose) = true := by
  simp [keywords, keywordsOf, Keyword.mem_all]

end Rule

end Rulebook
