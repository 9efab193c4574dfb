/-
**The category of a piece of code.**

A prompt is written for a category.  If it is not given it is told from the path of the file, by the
longest of some words that occurs in it, or else from words in the code around, and otherwise it is
`systems`.

Main definitions:

* `Rulebook.PromptContext` — what a prompt is asked for;
* `Rulebook.PromptContext.pathHints`, `Rulebook.PromptContext.codeHint?` — the words that tell a
  category;
* `Rulebook.PromptContext.detect` — the category of a prompt.
-/

import Rulebook.Category
import Rulebook.Text.Search

set_option autoImplicit false

namespace Rulebook

/-- What a prompt is asked for. -/
structure PromptContext where
  /-- The category, if it is given. -/
  category : Option Category
  /-- The path of the file. -/
  filePath : Option String
  /-- The name of the function. -/
  functionName : Option String
  /-- The kind of the file. -/
  fileType : Option String
  /-- The code around. -/
  codeContext : Option String
  deriving DecidableEq, Repr

namespace PromptContext

/-- Whether a word occurs in a text, whose case does not matter. -/
def occurs (word : String) (text : String) : Bool :=
  Text.contains word.toList (Text.folded text.toList)

/-! ### Paths -/

/-- The words in paths that tell a category. -/
def pathHints : List (String × Category) :=
  [("kernel", .kernel), ("module", .kernel), ("driver", .drivers), ("embedded", .embedded),
    ("firmware", .embedded), ("rtos", .realtime), ("realtime", .realtime),
    ("network", .networking), ("socket", .networking), ("legacy", .legacy), ("compat", .legacy)]

/-- The entry with the longest word; of several the first. -/
def longest? : List (String × Category) → Option (String × Category)
  | [] => none
  | hint :: rest =>
    match longest? rest with
    | some other => if hint.1.length < other.1.length then some other else some hint
    | none => some hint

/-- The category that a path tells. -/
def pathHint? (path : String) : Option Category :=
  (longest? (pathHints.filter fun hint => occurs hint.1 path)).map Prod.snd

/-! ### Code -/

/-- The category that code tells. -/
def codeHint? (code : String) : Option Category :=
  if occurs "module_init" code || occurs "module_exit" code then some .kernel
  else if occurs "volatile" code && occurs "isr" code then some .embedded
  else if occurs "socket" code || occurs "htons" code then some .networking
  else if occurs "rtos" code || occurs "freertos" code then some .realtime
  else none

/-! ### Contexts -/

/-- The category of a prompt. -/
def detect (context : PromptContext) : Category :=
  (context.category.or ((context.filePath.bind pathHint?).or
    (context.codeContext.bind codeHint?))).getD .systems

end PromptContext

end Rulebook
