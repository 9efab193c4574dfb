/-
**Words for what went wrong.**

A failure is told by a chain of messages, from what was to be done down to what stood in the way.
The last of them may be left open: what exactly is wrong with the spelling of a file or of a pattern
is for the reader of that format to say.

Main definitions:

* `Rulebook.Wording`, `Rulebook.Wording.text` — one message of a chain, and how it is shown;
* `Rulebook.Wording.indented` — a text with its lines moved to the right.
-/

import Rulebook.Text.Search

set_option autoImplicit false

namespace Rulebook

/-- One message of a chain. -/
inductive Wording where
  /-- These words. -/
  | words (text : String)
  /-- A file is not spelled as its format demands. -/
  | badSpelling
  /-- A pattern is not spelled as patterns are. -/
  | badPattern
  deriving DecidableEq, Repr

namespace Wording

/-- A message as it is shown. -/
def text : Wording → String
  | .words text => text
  | .badSpelling => "the file is malformed"
  | .badPattern => "the pattern is malformed"

/-- A line moved to the right, unless it is empty. -/
def indentedLine (line : List Char) : List Char :=
  if line.isEmpty then [] else ' ' :: ' ' :: ' ' :: line

/-- A text with its lines moved to the right. -/
def indented (s : List Char) : List Char :=
  ['\n'].intercalate ((Text.segments '\n' s).map indentedLine)

/-- A text under a heading; no text has no heading. -/
def headed (heading : String) (s : String) : String :=
  if s = "" then "" else heading ++ "\n" ++ String.ofList (indented s.toList)

end Wording

end Rulebook
