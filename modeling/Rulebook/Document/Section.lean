/-
**Sections and fenced blocks.**

A rule document is divided into sections by its headings: lines with one to six number signs and a
space, or nothing, after them.  A fenced block is a run of lines between two lines that begin with
three back quotes or tildes; what it holds is never a heading.

Main definitions:

* `Rulebook.Document.Section`, `Rulebook.Document.sections` — the sections of a list of lines, the
  first of which is what comes before all headings;
* `Rulebook.Document.Fence`, `Rulebook.Document.fences` — the closed fenced blocks of a list of
  lines.
-/

import Rulebook.Text.Blank
import Rulebook.Text.Letters
import Rulebook.Text.Lines

set_option autoImplicit false

namespace Rulebook.Document

/-- A line of a document, without its ending. -/
abbrev Line := List Char

/-! ### Sections -/

/-- A heading and the lines under it, up to the next heading. -/
structure Section where
  /-- The number of number signs; zero for what comes before all headings. -/
  level : Nat
  /-- The text of the heading. -/
  heading : List Char
  /-- The lines under the heading. -/
  body : List Line
  deriving DecidableEq, Repr

namespace Section

/-- The text under a heading. -/
def text (s : Section) : List Char := Text.trim (Text.unlines s.body)

/-- Whether a section has the given level and heading, in any case. -/
def isNamed (s : Section) (level : Nat) (name : String) : Bool :=
  s.level == level && Text.equalsIgnoringCase s.heading name.toList

end Section

/-- Whether a line begins or ends a fenced block. -/
def isFence (line : Line) : Bool :=
  match Text.trimStart line with
  | '`' :: '`' :: '`' :: _ => true
  | '~' :: '~' :: '~' :: _ => true
  | _ => false

/-- The level and the text of a heading. -/
def heading? (line : Line) : Option (Nat × List Char) :=
  let trimmed := Text.trimStart line
  let level := (trimmed.takeWhile (· == '#')).length
  let rest := trimmed.drop level
  if level = 0 ∨ 6 < level then none
  else
    match rest with
    | [] => some (level, [])
    | ' ' :: _ => some (level, Text.trim rest)
    | _ => none

/-- Whether the lines after a line are inside of a fenced block. -/
def fencedAfter (inFence : Bool) (line : Line) : Bool := if isFence line then !inFence else inFence

/-- The lines before the first heading, and the sections of the headings. -/
def splitSections (inFence : Bool) : List Line → List Line × List Section
  | [] => ([], [])
  | line :: rest =>
    let fenced := fencedAfter inFence line
    let (body, later) := splitSections fenced rest
    match if fenced then none else heading? line with
    | some (level, heading) => ([], ⟨level, heading, body⟩ :: later)
    | none => (line :: body, later)

/-- The sections of a list of lines. -/
def sectionsOfLines (lines : List Line) : List Section :=
  let (body, later) := splitSections false lines
  ⟨0, [], body⟩ :: later

/-- The sections of a document. -/
def sections (content : List Char) : List Section := sectionsOfLines (Text.lines content)

/-! ### Fenced blocks -/

/-- A fenced block. -/
structure Fence where
  /-- The language that its first line names. -/
  language : Option (List Char)
  /-- The lines between the two fences. -/
  lines : List Line
  deriving DecidableEq, Repr

/-- The text of a fenced block. -/
def Fence.code (f : Fence) : List Char := Text.unlines f.lines

/-- The language that the first line of a fenced block names. -/
def fenceLanguage (line : Line) : Option (List Char) :=
  match Text.trim ((Text.trimStart line).dropWhile fun c => c == '`' || c == '~') with
  | [] => none
  | name => some name

/-- The closed fenced blocks of a list of lines, after the lines of the block that is open. -/
def fencesFrom : Option Fence → List Line → List Fence
  | _, [] => []
  | none, line :: rest =>
    if isFence line then fencesFrom (some ⟨fenceLanguage line, []⟩) rest else fencesFrom none rest
  | some fence, line :: rest =>
    if isFence line then fence :: fencesFrom none rest
    else fencesFrom (some { fence with lines := fence.lines ++ [line] }) rest

/-- The closed fenced blocks of a list of lines. -/
def fences (lines : List Line) : List Fence := fencesFrom none lines

end Rulebook.Document
