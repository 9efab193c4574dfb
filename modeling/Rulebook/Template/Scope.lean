/-
**What a template sees.**

A path is a list of names with dots between them.  Each name selects a field of an object, or an
item of a list by its number; a path that ends in `length` after a list is the number of its items.
The body of a loop sees the surrounding names, the item under the last name of the loop's path and
under `this`, the item's own fields, and the item's place.

Main definitions:

* `Rulebook.Template.resolve` — the value at a path;
* `Rulebook.Template.lookUp` — the value at a path, lengths included;
* `Rulebook.Template.display` — a value as a template shows it;
* `Rulebook.Template.isTruthy` — whether a value counts as true;
* `Rulebook.Template.itemScope` — what the body of a loop sees.
-/

import Rulebook.Json.Writer
import Rulebook.Text.Blank
import Rulebook.Text.Search

set_option autoImplicit false

namespace Rulebook.Template

/-! ### Paths -/

/-- What a name selects in a value. -/
def select (value : Json) (name : List Char) : Option Json :=
  match value with
  | .object fields => Fields.get? fields (String.ofList name)
  | .array items => (Literal.index? name).bind fun i => items[i]?
  | _ => none

/-- What a list of names selects, one after the other. -/
def selectAll (value : Json) : List (List Char) → Option Json
  | [] => some value
  | name :: rest => (select value name).bind fun inner => selectAll inner rest

/-- The value at a path; blanks around the path do not matter. -/
def resolve (context : Json) (path : List Char) : Option Json :=
  selectAll context (Text.segments '.' (Text.trim path))

/-- The name that stands for the number of items. -/
def lengthName : List Char := ['l', 'e', 'n', 'g', 't', 'h']

/-- The value at a path.  After a list, `length` is the number of its items. -/
def lookUp (context : Json) (path : List Char) : Option Json :=
  let trimmed := Text.trim path
  match Text.splitLast '.' trimmed with
  | some (parent, last) =>
    if last = lengthName then
      match resolve context parent with
      | some (.array items) => some (Json.ofNat items.length)
      | some other => other.get? "length"
      | none => none
    else resolve context trimmed
  | none => resolve context trimmed

/-! ### Values as text and as conditions -/

mutual

/-- A value as a template shows it: texts as they are, nothing for the absent value, the items of a
list with commas between them. -/
def display : Json → List Char
  | .null => []
  | .string s => s.toList
  | .array items => displayItems items
  | .bool b => Json.compact (.bool b)
  | .number n => n.text
  | .object fields => Json.compact (.object fields)

/-- The items of a list as a template shows them. -/
def displayItems : List Json → List Char
  | [] => []
  | [item] => display item
  | item :: rest => display item ++ ',' :: ' ' :: displayItems rest

end

/-- A value that may be missing, as a template shows it. -/
def displayOption : Option Json → List Char
  | some value => display value
  | none => []

/-- Whether a value counts as true: not absent, false, zero or empty. -/
def isTruthy : Option Json → Bool
  | none => false
  | some .null => false
  | some (.bool b) => b
  | some (.number n) => !n.isZero
  | some (.string s) => !s.isEmpty
  | some (.array items) => !items.isEmpty
  | some (.object _) => true

/-! ### Loops -/

/-- The fields of an object; none for any other value. -/
def fieldsOf : Json → Fields
  | .object fields => fields
  | _ => []

/-- What the body of a loop sees for the item at `index` of a list of `count` items. -/
def itemScope (parent : Json) (name : String) (item : Json) (index count : Nat) : Json :=
  let named := Fields.set "this" item (Fields.set name item (fieldsOf parent))
  let withFields := Fields.setAll named (fieldsOf item)
  .object (Fields.set "@last" (.bool (index + 1 == count))
    (Fields.set "@first" (.bool (index == 0))
      (Fields.set "@index" (Json.ofNat index) withFields)))

/-- The items that a loop goes through: those of the list at its path, if there is a list. -/
def loopItems (context : Json) (path : List Char) : List Json :=
  match resolve context path with
  | some (.array items) => items
  | _ => []

/-- What the body of a loop sees, for each of its items in turn. -/
def loopScopes (context : Json) (path : List Char) : List Json :=
  let items := loopItems context path
  let name := String.ofList (Text.lastSegment '.' path)
  items.mapIdx fun index item => itemScope context name item index items.length

end Rulebook.Template
