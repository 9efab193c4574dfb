/-
**Metadata of a rule document.**

The metadata section holds settings by name.  Without a fenced block they are the lines of the form
`- **name**: value`; with one, the first block is read as a YAML object.  Names are in lower case,
and the last setting of a name counts.

Main definitions:

* `Rulebook.Document.Metadata` — settings by name;
* `Rulebook.Document.bullet?` — the setting of a line;
* `Rulebook.Document.metadata` — the settings of a metadata section.
-/

import Rulebook.Document.Section
import Rulebook.Rule.Error
import Rulebook.SortedMap
import Rulebook.Yaml.Value

set_option autoImplicit false

namespace Rulebook.Document

/-- Settings by name. -/
abbrev Metadata := SortedMap String String

/-- A setting, with its name in lower case. -/
def setting (name value : List Char) : String × String :=
  (String.ofList (Text.toLower name), String.ofList value)

/-! ### Settings of lines -/

/-- A text without the colon at its beginning, if there is one. -/
def dropColon : List Char → List Char
  | ':' :: rest => rest
  | s => s

/-- A text without the back quotes at its ends. -/
def dropTicks (s : List Char) : List Char :=
  Text.dropEndWhile (· == '`') (s.dropWhile (· == '`'))

/-- The text after two asterisks. -/
def afterStars? : List Char → Option (List Char)
  | '*' :: '*' :: rest => some rest
  | _ => none

/-- The text of a list item. -/
def itemText? (line : Line) : Option (List Char) :=
  match Text.trimStart line with
  | mark :: rest =>
    if (mark = '-' ∨ mark = '*') ∧ rest.head?.any Text.isBlank then some (Text.trimStart rest)
    else none
  | [] => none

/-- The setting of a line: a list item with a name between double asterisks, and a value.  Colons
may stand inside or outside of the asterisks. -/
def bullet? (line : Line) : Option (String × String) := do
  let item ← itemText? line
  let named ← afterStars? item
  let inner := Text.trimStart named
  let name := Text.trimEnd (inner.takeWhile fun c => c != '*' && c != ':')
  let afterName := inner.dropWhile fun c => c != '*' && c != ':'
  let rest ← afterStars? (Text.trimStart (dropColon afterName))
  if name.isEmpty then none
  else
    let value := Text.trim (dropColon (Text.trimStart rest))
    some (setting name (dropTicks value))

/-- The settings of a list of lines. -/
def bulletMetadata (lines : List Line) : Metadata := SortedMap.ofList (lines.filterMap bullet?)

/-! ### Settings of a fenced block -/

/-- The text of a setting: a scalar, or the scalars of a list with commas between them; nothing for
any other value. -/
def settingText : Yaml.Value → List Char
  | .list items => [',', ' '].intercalate (items.filterMap Yaml.Value.text?)
  | value => value.text?.getD []

/-- The setting of an entry; none if its key is not a scalar. -/
def entrySetting? (entry : Yaml.Value × Yaml.Value) : Option (String × String) :=
  entry.1.text?.map fun name => setting name (settingText entry.2)

/-- The settings of a fenced block. -/
def blockMetadata (code : List Char) : Except RuleError Metadata :=
  match (Yaml.readEntries? code).bind fun entries => entries.mapM entrySetting? with
  | some settings => .ok (SortedMap.ofList settings)
  | none => .error .invalidMetadata

/-! ### Settings of a section -/

/-- The settings of a metadata section. -/
def metadata (s : Section) : Except RuleError Metadata :=
  match fences s.body with
  | fence :: _ => blockMetadata fence.code
  | [] => .ok (bulletMetadata s.body)

end Rulebook.Document
