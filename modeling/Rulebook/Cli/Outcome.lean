/-
**What comes of a command.**

A command writes an answer and remarks, and may fail; what it wrote before it failed stands.

Main definitions:

* `Rulebook.Cli.Outcome`, `Rulebook.Cli.Outcome.failureLines` — the answer, the remarks and the
  failure, and the failure in lines;
* `Rulebook.Cli.Format.write` — an answer in one of its forms.
-/

import Rulebook.Cli.Command
import Rulebook.Json.Writer
import Rulebook.Text.Blank
import Rulebook.Text.Page
import Rulebook.Yaml.Writer

set_option autoImplicit false

namespace Rulebook.Cli

/-- What comes of a command. -/
structure Outcome where
  /-- The answer. -/
  output : String
  /-- The remarks, each of which ends a line. -/
  remarks : List String
  /-- The chain of messages of the failure; empty if there is none. -/
  failure : List Wording
  deriving DecidableEq, Repr

namespace Outcome

/-- A failure without an answer. -/
def failed (failure : List Wording) : Outcome := ⟨"", [], failure⟩

/-- Whether a command did what it was asked for. -/
def isSuccess (o : Outcome) : Bool := o.failure.isEmpty

/-- The exit status: zero for a success, one for a failure. -/
def status (o : Outcome) : Nat := if o.isSuccess then 0 else 1

/-- A message of the failure with its place in the chain. -/
def failureLine (entry : Wording × Nat) : String :=
  "   " ++ toString entry.2 ++ ": " ++ entry.1.text

/-- The failure in lines; none if there is no failure. -/
def failureLines (o : Outcome) : List String :=
  if o.isSuccess then [] else "Error:" :: o.failure.zipIdx.map failureLine

end Outcome

/-- A text without the blank characters at its end, and with one line end. -/
def closed (text : List Char) : String := String.ofList (Text.trimEnd text ++ ['\n'])

/-- An answer in one of its forms, given its value and its form for readers. -/
def Format.write (format : Format) (value : Json) (text : String) : String :=
  match format with
  | .text => closed text.toList
  | .json => closed value.indented
  | .yaml => closed (Yaml.write value)

end Rulebook.Cli
