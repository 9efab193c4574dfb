/-
**From a document to a rule.**

A rule document has a title, a section of metadata, sections for the description and the rationale,
and sections with good and bad examples.  Only the metadata with an id, categories and a severity
are required.

Main definitions:

* `Rulebook.Document.parseCategories`, `Rulebook.Document.parseFlag` — categories separated by
  commas, and switches;
* `Rulebook.Document.addExamples`, `Rulebook.Document.examples` — the examples of a section, and
  those of a list of sections;
* `Rulebook.Document.parse` — the rule of a document.
-/

import Rulebook.Document.Metadata
import Rulebook.Rule.Basic

set_option autoImplicit false

namespace Rulebook.Document

/-! ### Settings with a meaning -/

/-- The categories named in a list of texts, each once, added to those already found. -/
def collectCategories : List Category → List (List Char) → Except RuleError (List Category)
  | found, [] => .ok found
  | found, part :: rest => do
    let c ← Category.parse part
    collectCategories (if found.contains c then found else found ++ [c]) rest

/-- The categories of a text with commas between them, each once; there must be one. -/
def parseCategories (raw : List Char) : Except RuleError (List Category) := do
  let parts := ((Text.segments ',' raw).map Text.trim).filter fun part => !part.isEmpty
  let found ← collectCategories [] parts
  if found.isEmpty then throw .emptyCategory else return found

/-- A switch: `true`, `yes`, `on`, `false`, `no` or `off`, in any case. -/
def parseFlag (field : String) (raw : String) : Except RuleError Bool :=
  let word := String.ofList (Text.toLower (Text.trim raw.toList))
  if word = "true" ∨ word = "yes" ∨ word = "on" then .ok true
  else if word = "false" ∨ word = "no" ∨ word = "off" then .ok false
  else .error (.invalidValue field raw)

/-! ### Sections with a meaning -/

/-- The title of a rule in a heading, which may begin with `Rule:`. -/
def ruleTitle (heading : List Char) : List Char :=
  match "Rule:".toList.isPrefixOf? heading with
  | some rest => Text.trim rest
  | none =>
    match "rule:".toList.isPrefixOf? heading with
    | some rest => Text.trim rest
    | none => Text.trim heading

/-- The title of a document: that of its first heading of the first level, unless it is empty. -/
def title? (ss : List Section) : Option String :=
  match ss.find? fun s => s.level == 1 with
  | some s =>
    match ruleTitle s.heading with
    | [] => none
    | name => some (String.ofList name)
  | none => none

/-- The text of the first section of the second level with a name, unless it is empty. -/
def sectionText? (ss : List Section) (name : String) : Option String :=
  match ss.find? fun s => s.isNamed 2 name with
  | some s =>
    match s.text with
    | [] => none
    | text => some (String.ofList text)
  | none => none

/-! ### Examples -/

/-- Whether examples follow the rule or break it. -/
inductive Verdict where
  /-- They follow it. -/
  | good
  /-- They break it. -/
  | bad
  deriving DecidableEq, Repr

/-- The words of a heading, without decoration before its first letter. -/
def headingWords (heading : List Char) : List Char := heading.dropWhile fun c => !c.isAlpha

/-- The verdict that a heading announces. -/
def verdict? (heading : List Char) : Option Verdict :=
  let lower := Text.toLower (headingWords heading)
  if "good example".toList.isPrefixOf lower then some .good
  else if "bad example".toList.isPrefixOf lower then some .bad
  else none

/-- The explanation after the first colon of a heading. -/
def explanation? (heading : List Char) : Option String :=
  match Text.splitFirst [':'] (headingWords heading) with
  | some (_, rest) =>
    match Text.trim rest with
    | [] => none
    | text => some (String.ofList text)
  | none => none

/-- The examples of a section: its fenced blocks. -/
def sectionExamples (s : Section) : List Example :=
  (fences s.body).map fun fence =>
    ⟨fence.language.map String.ofList, String.ofList fence.code, explanation? s.heading⟩

/-- The examples of a section go to those with its verdict. -/
def addExamples (found : Examples) (s : Section) : Examples :=
  match verdict? s.heading with
  | some .good => { found with good := found.good ++ sectionExamples s }
  | some .bad => { found with bad := found.bad ++ sectionExamples s }
  | none => found

/-- The examples of a list of sections: those of the third level, one section after the other. -/
def examples (ss : List Section) : Examples :=
  (ss.filter fun s => s.level == 3).foldl addExamples .none

/-! ### Rules -/

/-- The value of a required setting. -/
def required (settings : Metadata) (field : String) : Except RuleError String :=
  match settings.get? field with
  | some value => .ok value
  | none => .error (.missingField field)

/-- The settings in a list of sections. -/
def settingsOf (ss : List Section) : Except RuleError Metadata :=
  match ss.find? fun s => s.isNamed 2 "metadata" with
  | some s => metadata s
  | none => .error (.missingSection "Metadata")

/-- Whether a rule is in force: yes, unless the settings say otherwise. -/
def enabledIn (settings : Metadata) : Except RuleError Bool :=
  match settings.get? "enabled" with
  | some raw => parseFlag "enabled" raw
  | none => .ok true

/-- The rule of a list of sections. -/
def ruleOfSections (ss : List Section) : Except RuleError Rule := do
  let settings ← settingsOf ss
  let id ← required settings "id"
  Rule.validateId id
  let categories ← required settings "category"
  let category ← parseCategories categories.toList
  let severityName ← required settings "severity"
  let severity ← Severity.parse severityName.toList
  let enabled ← enabledIn settings
  return {
    id := id
    name := ((title? ss).or (settings.get? "name")).getD id
    description := ((sectionText? ss "description").or (settings.get? "description")).getD ""
    rationale := ((sectionText? ss "rationale").or (settings.get? "rationale")).getD ""
    category := category
    severity := severity
    enabled := enabled
    examples := examples ss
    standard := settings.get? "standard"
    source := none }

/-- The rule of a document. -/
def parse (content : List Char) : Except RuleError Rule := ruleOfSections (sections content)

end Rulebook.Document
