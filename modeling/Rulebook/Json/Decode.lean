/-
**Values as typed data.**

Rules, overrides and configurations are read from structured values.  A record is an object, whose
unknown fields are ignored, or a list of its fields' values in their order; a choice is the name of
one of its variants, or an object with that name and nothing under it.  What does not fit is
reported with the first fault in the order in which the value was written; only then missing
fields are looked for, in the order of the record.

Main definitions:

* `Rulebook.Json.Mismatch`, `Rulebook.Json.Mismatch.message` — why a value does not fit, in words;
* `Rulebook.Json.asString`, `asBool`, `asList`, `asMap`, `asOption`, `asVariant` — readers;
* `Rulebook.Json.Record` — a record whose fields were found to fit, with `required` and
  `optional`.
-/

import Rulebook.Json.Writer
import Rulebook.SortedMap

set_option autoImplicit false

namespace Rulebook.Json

/-! ### Faults -/

/-- Why a value does not have the expected form. -/
inductive Mismatch where
  /-- A value of another kind. -/
  | type (found : Json) (expected : String)
  /-- An object that is not the form of a variant. -/
  | notSingle
  /-- A list of another length. -/
  | length (found : Nat) (expected : String)
  /-- A name that is none of the variants. -/
  | variant (found : String) (known : List String)
  /-- A required field that is not there. -/
  | missing (field : String)
  deriving Repr

/-- A value as a message names it. -/
def describe : Json → String
  | .null => "null"
  | .bool b => if b then "boolean `true`" else "boolean `false`"
  | .number (.int n) => "integer `" ++ String.ofList (Number.integerText n) ++ "`"
  | .number (.float x) => "floating point `" ++ String.ofList (x.text Number.style) ++ "`"
  | .string s => "string " ++ String.ofList (Text.quote s.toList)
  | .array _ => "sequence"
  | .object _ => "map"

/-- A name between back quotes. -/
def ticked (name : String) : String := "`" ++ name ++ "`"

/-- The variants of a choice as a message lists them. -/
def listVariants : List String → String
  | [] => "there are no variants"
  | [only] => "expected " ++ ticked only
  | [first, second] => "expected " ++ ticked first ++ " or " ++ ticked second
  | many => "expected one of " ++ ", ".intercalate (many.map ticked)

/-- The wording of a fault. -/
def Mismatch.message : Mismatch → String
  | .type found expected => "invalid type: " ++ describe found ++ ", expected " ++ expected
  | .notSingle => "invalid value: map, expected map with a single key"
  | .length found expected =>
    "invalid length " ++ toString found ++ ", expected " ++ expected
  | .variant found known => "unknown variant " ++ ticked found ++ ", " ++ listVariants known
  | .missing field => "missing field " ++ ticked field

/-- A reader of typed data. -/
abbrev Decoder (α : Type) := Json → Except Mismatch α

/-! ### Readers -/

/-- A text. -/
def asString : Decoder String
  | .string s => .ok s
  | other => .error (.type other "a string")

/-- A text that names a file. -/
def asPath : Decoder String
  | .string s => .ok s
  | other => .error (.type other "path string")

/-- A truth value. -/
def asBool : Decoder Bool
  | .bool b => .ok b
  | other => .error (.type other "a boolean")

/-- Any value. -/
def asAny : Decoder Json := .ok

/-- A list. -/
def asList {α : Type} (item : Decoder α) : Decoder (List α)
  | .array items => items.mapM item
  | other => .error (.type other "a sequence")

/-- A value that may be absent. -/
def asOption {α : Type} (inner : Decoder α) : Decoder (Option α)
  | .null => .ok none
  | other => (inner other).map some

/-- The entries of an object with the values read. -/
def asEntries {α : Type} (value : Decoder α) (fields : List (String × Json)) :
    Except Mismatch (List (String × α)) :=
  fields.mapM fun field => (value field.2).map fun v => (field.1, v)

/-- An object with arbitrary keys. -/
def asMap {α : Type} (value : Decoder α) : Decoder (SortedMap String α)
  | .object fields => (asEntries value fields).map SortedMap.ofList
  | other => .error (.type other "a map")

/-- The variant with the given name. -/
def variantOf {α : Type} (all : List α) (name : α → String) (found : String) :
    Except Mismatch α :=
  match all.find? fun v => name v == found with
  | some v => .ok v
  | none => .error (.variant found (all.map name))

/-- A variant of a choice. -/
def asVariant {α : Type} (all : List α) (name : α → String) : Decoder α
  | .string s => variantOf all name s
  | .object [(key, inner)] => do
    let v ← variantOf all name key
    match inner with
    | .null => .ok v
    | other => .error (.type other "unit")
  | .object _ => .error .notSingle
  | other => .error (.type other "string or map")

/-! ### Records -/

/-- A record whose fields were found to fit. -/
structure Record where
  /-- The fields that are there. -/
  fields : Fields
  /-- The fault of a field that is not. -/
  fault : String → Mismatch

/-- Whether a value fits a reader. -/
def fits {α : Type} (decoder : Decoder α) : Decoder Unit := fun value =>
  (decoder value).map fun _ => ()

/-- Checks the known fields in the order in which they were written. -/
def checkFields (known : List (String × Decoder Unit)) (fields : List (String × Json)) :
    Except Mismatch Unit :=
  fields.forM fun field =>
    match known.lookup field.1 with
    | some check => check field.2
    | none => .ok ()

/-- A noun with its count. -/
def elements (n : Nat) : String := toString n ++ if n = 1 then " element" else " elements"

/-- Reads a record of the given type: an object, or the values of the fields in order. -/
def Record.read (type : String) (known : List (String × Decoder Unit)) : Decoder Record
  | .object fields => do
    checkFields known fields
    return ⟨fields, .missing⟩
  | .array items => do
    let names := known.map Prod.fst
    let fields := names.zip items
    checkFields known fields
    if names.length < items.length then
      throw (.length items.length "fewer elements in array")
    return ⟨fields, fun name =>
      .length (names.idxOf name) (type ++ " with " ++ elements names.length)⟩
  | other => .error (.type other type)

/-- The value of a field that must be there. -/
def Record.required {α : Type} (r : Record) (name : String) (decoder : Decoder α) :
    Except Mismatch α :=
  match r.fields.get? name with
  | some value => decoder value
  | none => .error (r.fault name)

/-- The value of a field that has a default. -/
def Record.optional {α : Type} (r : Record) (name : String) (decoder : Decoder α) (default : α) :
    Except Mismatch α :=
  match r.fields.get? name with
  | some value => decoder value
  | none => .ok default

end Rulebook.Json
